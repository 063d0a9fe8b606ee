import UptimeAlert.Calendar.Zone

namespace UptimeAlert.Zone

def newYork : Zone where
  before := -17762
  changes := [
    (59417946000, -18000), (60502316400, -14400), (60520456800, -18000), (60533766000, -14400),
    (60551906400, -18000), (60565215600, -14400), (60583960800, -18000), (60599084400, -14400),
    (60612386400, -18000), (60631138800, -14400), (60643836000, -18000), (60662588400, -14400),
    (60675890400, -18000), (60694038000, -14400), (60707340000, -18000), (60725487600, -14400),
    (60738789600, -18000), (60756937200, -14400), (60770239200, -18000), (60788386800, -14400),
    (60801688800, -18000), (60820441200, -14400), (60833743200, -18000), (60851890800, -14400),
    (60865192800, -18000), (60883340400, -14400), (60896642400, -18000), (60914790000, -14400),
    (60928092000, -18000), (60946239600, -14400), (60959541600, -18000), (60978294000, -14400),
    (60990991200, -18000), (61009743600, -14400), (61023045600, -18000), (61041193200, -14400),
    (61054495200, -18000), (61072642800, -14400), (61085944800, -18000), (61104092400, -14400),
    (61117394400, -18000), (61135542000, -14400), (61148844000, -18000), (61167596400, -14400),
    (61180293600, -18000), (61199046000, -14400), (61212348000, -18000), (61230495600, -14400),
    (61243797600, -18000), (61255378800, -14400), (61370200800, -18000), (61388348400, -14400),
    (61401650400, -18000), (61419798000, -14400), (61433100000, -18000), (61451247600, -14400),
    (61464549600, -18000), (61482697200, -14400), (61495999200, -18000), (61514751600, -14400),
    (61527448800, -18000), (61546201200, -14400), (61559503200, -18000), (61577650800, -14400),
    (61590952800, -18000), (61609100400, -14400), (61622402400, -18000), (61640550000, -14400),
    (61653852000, -18000), (61671999600, -14400), (61688325600, -18000), (61704054000, -14400),
    (61719775200, -18000), (61735503600, -14400), (61751224800, -18000), (61766953200, -14400),
    (61782674400, -18000), (61798402800, -14400), (61814124000, -18000), (61829852400, -14400),
    (61846178400, -18000), (61861906800, -14400), (61877628000, -18000), (61893356400, -14400),
    (61909077600, -18000), (61924806000, -14400), (61940527200, -18000), (61956255600, -14400),
    (61971976800, -18000), (61987705200, -14400), (62004031200, -18000), (62019154800, -14400),
    (62035480800, -18000), (62051209200, -14400), (62066930400, -18000), (62082658800, -14400),
    (62098380000, -18000), (62114108400, -14400), (62129829600, -18000), (62145558000, -14400),
    (62161279200, -18000), (62177007600, -14400), (62193333600, -18000), (62209062000, -14400),
    (62224783200, -18000), (62240511600, -14400), (62256232800, -18000), (62262284400, -14400),
    (62287682400, -18000), (62297967600, -14400), (62319132000, -18000), (62334860400, -14400),
    (62351186400, -18000), (62366310000, -14400), (62382636000, -18000), (62398364400, -14400),
    (62414085600, -18000), (62429814000, -14400), (62445535200, -18000), (62461263600, -14400),
    (62476984800, -18000), (62492713200, -14400), (62508434400, -18000), (62524162800, -14400),
    (62540488800, -18000), (62555612400, -14400), (62571938400, -18000), (62587666800, -14400),
    (62603388000, -18000), (62619116400, -14400), (62634837600, -18000), (62650566000, -14400),
    (62666287200, -18000), (62680201200, -14400), (62697736800, -18000), (62711650800, -14400),
    (62729791200, -18000), (62743100400, -14400), (62761240800, -18000), (62774550000, -14400),
    (62792690400, -18000), (62806604400, -14400), (62824140000, -18000), (62838054000, -14400),
    (62855589600, -18000), (62869503600, -14400), (62887644000, -18000), (62900953200, -14400),
    (62919093600, -18000), (62932402800, -14400), (62950543200, -18000), (62964457200, -14400),
    (62981992800, -18000), (62995906800, -14400), (63013442400, -18000), (63027356400, -14400),
    (63044892000, -18000), (63058806000, -14400), (63076946400, -18000), (63090255600, -14400),
    (63108396000, -18000), (63121705200, -14400), (63139845600, -18000), (63153759600, -14400),
    (63171295200, -18000), (63185209200, -14400), (63202744800, -18000), (63216658800, -14400),
    (63234799200, -18000), (63248108400, -14400), (63266248800, -18000), (63279558000, -14400),
    (63297698400, -18000), (63309193200, -14400)]
  after := .seasonal (-18000) (-14400) ⟨3, 2, 0, 7200⟩ ⟨11, 1, 0, 7200⟩

def stJohns : Zone where
  before := -12652
  changes := [
    (60471466252, -9052), (60485459452, -12652), (60503520652, -9052), (60520451452, -12652),
    (60536946652, -9052), (60545496652, -12652), (60568309852, -9052), (60584031052, -12652),
    (60599759452, -9052), (60615480652, -12652), (60631813852, -9052), (60646930252, -12652),
    (60663263452, -9052), (60678379852, -12652), (60694713052, -9052), (60709829452, -12652),
    (60726162652, -9052), (60741279052, -12652), (60757612252, -9052), (60773333452, -12652),
    (60789061852, -9052), (60804783052, -12652), (60821116252, -9052), (60836232652, -12652),
    (60852565852, -9052), (60867682252, -12652), (60884015452, -9052), (60899131852, -12652),
    (60915465052, -9052), (60930581452, -12652), (60946914652, -9052), (60962635852, -12652),
    (60978969052, -9052), (60994085452, -12652), (61010418652, -9052), (61025535052, -12652),
    (61038675052, -12600), (61041868200, -9000), (61056984600, -12600), (61073926200, -9000),
    (61086623400, -12600), (61105375800, -9000), (61118073000, -12600), (61136825400, -9000),
    (61149522600, -12600), (61168879800, -9000), (61180972200, -12600), (61200329400, -9000),
    (61213026600, -12600), (61231779000, -9000), (61244476200, -12600), (61263228600, -9000),
    (61370195400, -12600), (61389552600, -9000), (61402249800, -12600), (61421002200, -9000),
    (61433699400, -12600), (61452451800, -9000), (61465149000, -12600), (61483901400, -9000),
    (61496598600, -12600), (61515955800, -9000), (61528653000, -12600), (61546195800, -9000),
    (61559497800, -12600), (61577645400, -9000), (61590947400, -12600), (61609095000, -9000),
    (61622397000, -12600), (61640544600, -9000), (61653846600, -12600), (61671994200, -9000),
    (61685296200, -12600), (61704048600, -9000), (61717350600, -12600), (61735498200, -9000),
    (61748800200, -12600), (61766947800, -9000), (61780249800, -12600), (61798397400, -9000),
    (61811699400, -12600), (61829847000, -9000), (61846173000, -12600), (61861901400, -9000),
    (61877622600, -12600), (61893351000, -9000), (61909072200, -12600), (61924800600, -9000),
    (61940521800, -12600), (61956250200, -9000), (61971971400, -12600), (61987699800, -9000),
    (62004025800, -12600), (62019149400, -9000), (62035475400, -12600), (62051203800, -9000),
    (62066925000, -12600), (62082653400, -9000), (62098374600, -12600), (62114103000, -9000),
    (62129824200, -12600), (62145552600, -9000), (62161273800, -12600), (62177002200, -9000),
    (62193328200, -12600), (62209056600, -9000), (62224777800, -12600), (62240506200, -9000),
    (62256227400, -12600), (62271955800, -9000), (62287677000, -12600), (62303405400, -9000),
    (62319126600, -12600), (62334855000, -9000), (62351181000, -12600), (62366304600, -9000),
    (62382630600, -12600), (62398359000, -9000), (62414080200, -12600), (62429808600, -9000),
    (62445529800, -12600), (62461258200, -9000), (62476979400, -12600), (62492707800, -9000),
    (62508429000, -12600), (62524157400, -9000), (62540483400, -12600), (62555607000, -9000),
    (62571933000, -12600), (62587661400, -9000), (62603382600, -12600), (62619111000, -9000),
    (62634832200, -12600), (62650560600, -9000), (62666281800, -12600), (62680188660, -9000),
    (62697724260, -12600), (62711638260, -5400), (62729775060, -12600), (62743087860, -9000),
    (62761228260, -12600), (62774537460, -9000), (62792677860, -12600), (62806591860, -9000),
    (62824127460, -12600), (62838041460, -9000), (62855577060, -12600), (62869491060, -9000),
    (62887631460, -12600), (62900940660, -9000), (62919081060, -12600), (62932390260, -9000),
    (62950530660, -12600), (62964444660, -9000), (62981980260, -12600), (62995894260, -9000),
    (63013429860, -12600), (63027343860, -9000), (63044879460, -12600), (63058793460, -9000),
    (63076933860, -12600), (63090243060, -9000), (63108383460, -12600), (63121692660, -9000),
    (63139833060, -12600), (63153747060, -9000), (63171282660, -12600), (63185196660, -9000),
    (63202732260, -12600), (63216646260, -9000), (63234786660, -12600), (63248095860, -9000),
    (63266236260, -12600), (63279545460, -9000), (63297685860, -12600), (63309180660, -9000),
    (63329740260, -12600), (63340630260, -9000), (63361189860, -12600), (63372079860, -9000),
    (63392639460, -12600), (63404134260, -9000), (63424693860, -12600), (63435583860, -9000),
    (63455711400, -9000)]
  after := .seasonal (-12600) (-9000) ⟨3, 2, 0, 7200⟩ ⟨11, 1, 0, 7200⟩

def saoPaulo : Zone where
  before := -11188
  changes := [
    (60368382388, -10800), (60928639200, -7200), (60944234400, -10800), (60960222000, -7200),
    (60975770400, -10800), (61501777200, -7200), (61513527600, -10800), (61533313200, -7200),
    (61543764000, -10800), (61564849200, -7200), (61575386400, -10800), (61596471600, -7200),
    (61604244000, -10800), (61940170800, -7200), (61951399200, -10800), (61980433200, -7200),
    (61985527200, -10800), (62006698800, -7200), (62014471200, -10800), (62035642800, -7200),
    (62046007200, -10800), (62067178800, -7200), (62077629600, -10800), (62635345200, -7200),
    (62646832800, -10800), (62666190000, -7200), (62675863200, -10800), (62697726000, -7200),
    (62706794400, -10800), (62728570800, -7200), (62737639200, -10800), (62760020400, -7200),
    (62770298400, -10800), (62792074800, -7200), (62802352800, -10800), (62823524400, -7200),
    (62833197600, -10800), (62855578800, -7200), (62864042400, -10800), (62886423600, -7200),
    (62897306400, -10800), (62917873200, -7200), (62928756000, -10800), (62949322800, -7200),
    (62959600800, -10800), (62980167600, -7200), (62991655200, -10800), (63011703600, -7200),
    (63024314400, -10800), (63043671600, -7200), (63055159200, -10800), (63074516400, -7200),
    (63087213600, -10800), (63106570800, -7200), (63118058400, -10800), (63138625200, -7200),
    (63149508000, -10800), (63171889200, -7200), (63180957600, -10800), (63202129200, -7200),
    (63212407200, -10800), (63234961200, -7200), (63244461600, -10800), (63265028400, -7200),
    (63275911200, -10800), (63298292400, -7200), (63307965600, -10800), (63327927600, -7200),
    (63338810400, -10800), (63359982000, -7200), (63370260000, -10800), (63391431600, -7200),
    (63402314400, -10800), (63422881200, -7200), (63433764000, -10800), (63454330800, -7200),
    (63465818400, -10800), (63486385200, -7200), (63496663200, -10800), (63517834800, -7200),
    (63528112800, -10800), (63549284400, -7200), (63560167200, -10800), (63580734000, -7200),
    (63591616800, -10800), (63612183600, -7200), (63623066400, -10800), (63643633200, -7200),
    (63654516000, -10800), (63676897200, -7200), (63685965600, -10800)]
  after := .fixed (-10800)

def caracas : Zone where
  before := -16064
  changes := [
    (59611091264, -16060), (60308857660, -16200), (61977846600, -14400), (63332780400, -16200),
    (63597682800, -14400)]
  after := .fixed (-14400)

def losAngeles : Zone where
  before := -28378
  changes := [
    (59417956800, -28800), (60502327200, -25200), (60520467600, -28800), (60533776800, -25200),
    (60551917200, -28800), (61255389600, -25200), (61370211600, -28800), (61447629660, -25200),
    (61472941200, -28800), (61514758800, -25200), (61527459600, -28800), (61546208400, -25200),
    (61559514000, -28800), (61577658000, -25200), (61590963600, -28800), (61609107600, -25200),
    (61622413200, -28800), (61640557200, -25200), (61653862800, -28800), (61672006800, -25200),
    (61685312400, -28800), (61704061200, -25200), (61717366800, -28800), (61735510800, -25200),
    (61748816400, -28800), (61766960400, -25200), (61780266000, -28800), (61798410000, -25200),
    (61811715600, -28800), (61829859600, -25200), (61843165200, -28800), (61861914000, -25200),
    (61874614800, -28800), (61893363600, -25200), (61909088400, -28800), (61924813200, -25200),
    (61940538000, -28800), (61956262800, -25200), (61971987600, -28800), (61987712400, -25200),
    (62004042000, -28800), (62019162000, -25200), (62035491600, -28800), (62051220000, -25200),
    (62066941200, -28800), (62082669600, -25200), (62098390800, -28800), (62114119200, -25200),
    (62129840400, -28800), (62145568800, -25200), (62161290000, -28800), (62177018400, -25200),
    (62193344400, -28800), (62209072800, -25200), (62224794000, -28800), (62240522400, -25200),
    (62256243600, -28800), (62262295200, -25200), (62287693200, -28800), (62297978400, -25200),
    (62319142800, -28800), (62334871200, -25200), (62351197200, -28800), (62366320800, -25200),
    (62382646800, -28800), (62398375200, -25200), (62414096400, -28800), (62429824800, -25200),
    (62445546000, -28800), (62461274400, -25200), (62476995600, -28800), (62492724000, -25200),
    (62508445200, -28800), (62524173600, -25200), (62540499600, -28800), (62555623200, -25200),
    (62571949200, -28800), (62587677600, -25200), (62603398800, -28800), (62619127200, -25200),
    (62634848400, -28800), (62650576800, -25200), (62666298000, -28800), (62680212000, -25200),
    (62697747600, -28800), (62711661600, -25200), (62729802000, -28800), (62743111200, -25200),
    (62761251600, -28800), (62774560800, -25200), (62792701200, -28800), (62806615200, -25200),
    (62824150800, -28800), (62838064800, -25200), (62855600400, -28800), (62869514400, -25200),
    (62887654800, -28800), (62900964000, -25200), (62919104400, -28800), (62932413600, -25200),
    (62950554000, -28800), (62964468000, -25200), (62982003600, -28800), (62995917600, -25200),
    (63013453200, -28800), (63027367200, -25200), (63044902800, -28800), (63058816800, -25200),
    (63076957200, -28800), (63090266400, -25200), (63108406800, -28800), (63121716000, -25200),
    (63139856400, -28800), (63153770400, -25200), (63171306000, -28800), (63185220000, -25200),
    (63202755600, -28800), (63216669600, -25200), (63234810000, -28800), (63248119200, -25200),
    (63266259600, -28800), (63279568800, -25200), (63297709200, -28800), (63309204000, -25200)]
  after := .seasonal (-28800) (-25200) ⟨3, 2, 0, 7200⟩ ⟨11, 1, 0, 7200⟩

def buenosAires : Zone where
  before := -14028
  changes := [
    (59763498828, -15408), (60568143408, -14400), (60902164800, -10800), (60912615600, -14400),
    (60929640000, -10800), (60941559600, -14400), (60962731200, -10800), (60973095600, -14400),
    (60994267200, -10800), (61004631600, -14400), (61025803200, -10800), (61036167600, -14400),
    (61057339200, -10800), (61067790000, -14400), (61088961600, -10800), (61099326000, -14400),
    (61120497600, -10800), (61130862000, -14400), (61152033600, -10800), (61162398000, -14400),
    (61183569600, -10800), (61194020400, -14400), (61204564800, -10800), (61234714800, -14400),
    (61245259200, -10800), (61301847600, -14400), (61308331200, -10800), (61383322800, -14400),
    (61401816000, -10800), (61938270000, -14400), (61944753600, -10800), (61951402800, -14400),
    (61971105600, -10800), (61982938800, -14400), (62002641600, -10800), (62014474800, -14400),
    (62034177600, -10800), (62048775600, -14400), (62064504000, -10800), (62080830000, -14400),
    (62096558400, -10800), (62112279600, -14400), (62128008000, -10800), (62263738800, -7200),
    (62272202400, -10800), (62732545200, -7200), (62740663200, -10800), (62760020400, -7200),
    (62772112800, -10800), (62792074800, -7200), (62803562400, -10800), (62823524400, -7200),
    (62835012000, -10800), (62854974000, -7200), (62867066400, -10800), (63334580400, -7200),
    (63341229600, -10800), (63359982000, -7200), (63372679200, -10800)]
  after := .fixed (-10800)

def nuuk : Zone where
  before := -12416
  changes := [
    (60449513216, -10800), (62459442000, -7200), (62474547600, -10800), (62490272400, -7200),
    (62505997200, -10800), (62521722000, -7200), (62537446800, -10800), (62553171600, -7200),
    (62568896400, -10800), (62584621200, -7200), (62600950800, -10800), (62616675600, -7200),
    (62632400400, -10800), (62648125200, -7200), (62663850000, -10800), (62679574800, -7200),
    (62695299600, -10800), (62711024400, -7200), (62726749200, -10800), (62742474000, -7200),
    (62758198800, -10800), (62773923600, -7200), (62790253200, -10800), (62805978000, -7200),
    (62821702800, -10800), (62837427600, -7200), (62853152400, -10800), (62868877200, -7200),
    (62884602000, -10800), (62900326800, -7200), (62916051600, -10800), (62931776400, -7200),
    (62947501200, -10800), (62963830800, -7200), (62981974800, -10800), (62995280400, -7200),
    (63013424400, -10800), (63026730000, -7200), (63044874000, -10800), (63058179600, -7200),
    (63076928400, -10800), (63089629200, -7200), (63108378000, -10800), (63121078800, -7200),
    (63139827600, -10800), (63153133200, -7200), (63171277200, -10800), (63184582800, -7200),
    (63202726800, -10800), (63216032400, -7200), (63234781200, -10800), (63247482000, -7200),
    (63266230800, -10800), (63278931600, -7200), (63297680400, -10800), (63310381200, -7200),
    (63329130000, -10800), (63342435600, -7200), (63360579600, -10800), (63373885200, -7200),
    (63392029200, -10800), (63405334800, -7200), (63424083600, -10800), (63436784400, -7200),
    (63455533200, -10800), (63468234000, -7200), (63486982800, -10800), (63500288400, -7200),
    (63518432400, -10800), (63531738000, -7200), (63549882000, -10800), (63563187600, -7200),
    (63581331600, -10800), (63594637200, -7200), (63613386000, -10800), (63626086800, -7200),
    (63644835600, -10800), (63657536400, -7200), (63676285200, -10800), (63689590800, -7200),
    (63707734800, -10800), (63721040400, -7200), (63739184400, -10800), (63752490000, -7200),
    (63771238800, -10800), (63783939600, -7200), (63802688400, -10800), (63815389200, -7200),
    (63834138000, -7200)]
  after := .seasonal (-7200) (-3600) ⟨3, 5, 0, -3600⟩ ⟨10, 5, 0, 0⟩

end UptimeAlert.Zone
