import UptimeAlert.Calendar.Zone

namespace UptimeAlert.Zone

def berlin : Zone where
  before := 3208
  changes := [
    (59713542392, 3600), (60441890400, 7200), (60455113200, 3600), (60472141200, 7200),
    (60485446800, 3600), (60503590800, 7200), (60516896400, 3600), (61196691600, 7200),
    (61278339600, 3600), (61291040400, 7200), (61307370000, 3600), (61323094800, 7200),
    (61338819600, 3600), (61354544400, 7200), (61359033600, 10800), (61369660800, 7200),
    (61374416400, 3600), (61387117200, 7200), (61402323600, 3600), (61417965600, 7200),
    (61420986000, 10800), (61425216000, 7200), (61433686800, 3600), (61450621200, 7200),
    (61465136400, 3600), (61481466000, 7200), (61496586000, 3600), (62459427600, 7200),
    (62474547600, 3600), (62490272400, 7200), (62505997200, 3600), (62521722000, 7200),
    (62537446800, 3600), (62553171600, 7200), (62568896400, 3600), (62584621200, 7200),
    (62600950800, 3600), (62616675600, 7200), (62632400400, 3600), (62648125200, 7200),
    (62663850000, 3600), (62679574800, 7200), (62695299600, 3600), (62711024400, 7200),
    (62726749200, 3600), (62742474000, 7200), (62758198800, 3600), (62773923600, 7200),
    (62790253200, 3600), (62805978000, 7200), (62821702800, 3600), (62837427600, 7200),
    (62853152400, 3600), (62868877200, 7200), (62884602000, 3600), (62900326800, 7200),
    (62916051600, 3600), (62931776400, 7200), (62947501200, 3600), (62963830800, 7200)]
  after := .seasonal 3600 7200 ⟨3, 5, 0, 7200⟩ ⟨10, 5, 0, 10800⟩

def london : Zone where
  before := -75
  changes := [
    (58282934475, 0), (60443632800, 3600), (60455124000, 0), (60471453600, 3600), (60485450400, 0),
    (60501693600, 3600), (60518109600, 0), (60533748000, 3600), (60549559200, 0),
    (60565197600, 3600), (60583428000, 0), (60597252000, 3600), (60613063200, 0),
    (60628096800, 3600), (60645031200, 0), (60661965600, 3600), (60674666400, 0),
    (60692810400, 3600), (60706720800, 0), (60724864800, 3600), (60739380000, 0),
    (60756314400, 3600), (60770829600, 0), (60787159200, 3600), (60802279200, 0),
    (60819818400, 3600), (60834333600, 0), (60851268000, 3600), (60865783200, 0),
    (60882112800, 3600), (60897232800, 0), (60914167200, 3600), (60928682400, 0),
    (60945616800, 3600), (60960132000, 0), (60976461600, 3600), (60992186400, 0),
    (61009120800, 3600), (61023636000, 0), (61039965600, 3600), (61055085600, 0),
    (61072020000, 3600), (61086535200, 0), (61103469600, 3600), (61117984800, 0),
    (61134314400, 3600), (61149434400, 0), (61166368800, 3600), (61185117600, 0),
    (61193584800, 3600), (61231078800, 7200), (61239546000, 3600), (61260109200, 7200),
    (61270995600, 3600), (61291558800, 7200), (61303050000, 3600), (61323008400, 7200),
    (61337523600, 3600), (61354544400, 7200), (61363530000, 3600), (61370791200, 0),
    (61387120800, 3600), (61402240800, 0), (61416151200, 3600), (61418566800, 7200),
    (61428848400, 3600), (61436109600, 0), (61447600800, 3600), (61467559200, 0),
    (61480864800, 3600), (61499008800, 0), (61513524000, 3600), (61529853600, 0),
    (61544973600, 3600), (61561303200, 0), (61577028000, 3600), (61593357600, 0),
    (61608477600, 3600), (61622992800, 0), (61639322400, 3600), (61654442400, 0),
    (61671376800, 3600), (61685892000, 0), (61703431200, 3600), (61717946400, 0),
    (61734276000, 3600), (61749396000, 0), (61766330400, 3600), (61780845600, 0),
    (61797780000, 3600), (61812295200, 0), (61828624800, 3600), (61843744800, 0),
    (61858864800, 3600), (61877613600, 0), (61890314400, 3600), (61909063200, 0),
    (61922368800, 3600), (61940512800, 0), (61953213600, 3600), (61971962400, 0),
    (61984663200, 3600), (62003412000, 0), (62016112800, 3600), (62034861600, 0),
    (62047562400, 3600), (62066916000, 0), (62076592800, 3600), (62193319200, 0),
    (62205415200, 3600), (62224768800, 0), (62236864800, 3600), (62256218400, 0),
    (62268314400, 3600), (62287668000, 0), (62299764000, 3600), (62319117600, 0),
    (62331818400, 3600), (62350567200, 0), (62363268000, 3600), (62382016800, 0),
    (62394717600, 3600), (62414071200, 0), (62426167200, 3600), (62445520800, 0),
    (62457616800, 3600), (62476970400, 0), (62490272400, 3600), (62508416400, 0),
    (62521722000, 3600), (62539866000, 0), (62553171600, 3600), (62571315600, 0),
    (62584621200, 3600), (62603370000, 0), (62616675600, 3600), (62634819600, 0),
    (62648125200, 3600), (62666269200, 0), (62679574800, 3600), (62697718800, 0),
    (62711024400, 3600), (62729168400, 0), (62742474000, 3600), (62761222800, 0),
    (62773923600, 3600), (62792672400, 0), (62805978000, 3600), (62824122000, 0),
    (62837427600, 3600), (62855571600, 0), (62868877200, 3600), (62887021200, 0),
    (62900326800, 3600), (62918470800, 0), (62931776400, 3600), (62949920400, 0), (62956051200, 0)]
  after := .seasonal 0 3600 ⟨3, 5, 0, 3600⟩ ⟨10, 5, 0, 7200⟩

def dublin : Zone where
  before := -1521
  changes := [
    (60443634321, 2079), (60455125521, 0), (60471453600, 3600), (60485450400, 0),
    (60501693600, 3600), (60518109600, 0), (60533748000, 3600), (60549559200, 0),
    (60565197600, 3600), (60583428000, 0), (60597252000, 3600), (60613063200, 0),
    (60628096800, 3600), (60645031200, 0), (60661965600, 3600), (60674666400, 0),
    (60692810400, 3600), (60706720800, 0), (60724864800, 3600), (60739380000, 0),
    (60756314400, 3600), (60770829600, 0), (60787159200, 3600), (60802279200, 0),
    (60819818400, 3600), (60834333600, 0), (60851268000, 3600), (60865783200, 0),
    (60882112800, 3600), (60897232800, 0), (60914167200, 3600), (60928682400, 0),
    (60945616800, 3600), (60960132000, 0), (60976461600, 3600), (60992186400, 0),
    (61009120800, 3600), (61023636000, 0), (61039965600, 3600), (61055085600, 0),
    (61072020000, 3600), (61086535200, 0), (61103469600, 3600), (61117984800, 0),
    (61134314400, 3600), (61149434400, 0), (61166368800, 3600), (61185117600, 0),
    (61193584800, 3600), (61402240800, 0), (61416151200, 3600), (61436109600, 0),
    (61450624800, 3600), (61467559200, 0), (61480864800, 3600), (61499008800, 0),
    (61513524000, 3600), (61529853600, 0), (61544973600, 3600), (61561303200, 0),
    (61577028000, 3600), (61593357600, 0), (61608477600, 3600), (61622992800, 0),
    (61639322400, 3600), (61654442400, 0), (61671376800, 3600), (61685892000, 0),
    (61703431200, 3600), (61717946400, 0), (61734276000, 3600), (61749396000, 0),
    (61766330400, 3600), (61780845600, 0), (61797780000, 3600), (61812295200, 0),
    (61828624800, 3600), (61843744800, 0), (61858864800, 3600), (61877613600, 0),
    (61890314400, 3600), (61909063200, 0), (61922368800, 3600), (61940512800, 0),
    (61953213600, 3600), (61971962400, 0), (61984663200, 3600), (62003412000, 0),
    (62016112800, 3600), (62034861600, 0), (62047562400, 3600), (62066916000, 0),
    (62076592800, 3600), (62193319200, 0), (62205415200, 3600), (62224768800, 0),
    (62236864800, 3600), (62256218400, 0), (62268314400, 3600), (62287668000, 0),
    (62299764000, 3600), (62319117600, 0), (62331818400, 3600), (62350567200, 0),
    (62363268000, 3600), (62382016800, 0), (62394717600, 3600), (62414071200, 0),
    (62426167200, 3600), (62445520800, 0), (62457616800, 3600), (62476970400, 0),
    (62490272400, 3600), (62508416400, 0), (62521722000, 3600), (62539866000, 0),
    (62553171600, 3600), (62571315600, 0), (62584621200, 3600), (62603370000, 0),
    (62616675600, 3600), (62634819600, 0), (62648125200, 3600), (62666269200, 0),
    (62679574800, 3600), (62697718800, 0), (62711024400, 3600), (62729168400, 0),
    (62742474000, 3600), (62761222800, 0), (62773923600, 3600), (62792672400, 0),
    (62805978000, 3600), (62824122000, 0), (62837427600, 3600), (62855571600, 0),
    (62868877200, 3600), (62887021200, 0), (62900326800, 3600), (62918470800, 0),
    (62931776400, 3600), (62949920400, 0), (62963830800, 3600)]
  after := .seasonal 3600 0 ⟨10, 5, 0, 7200⟩ ⟨3, 5, 0, 3600⟩

def moscow : Zone where
  before := 9017
  changes := [
    (60447331783, 9079), (60478777721, 12679), (60494243321, 9079), (60507631721, 16279),
    (60516880121, 12679), (60539167721, 16279), (60541776000, 14400), (60545736000, 10800),
    (60593169600, 14400), (60596103600, 18000), (60610273200, 14400), (60612868800, 10800),
    (60644408400, 7200), (60888060000, 10800), (62490517200, 14400), (62506324800, 10800),
    (62522053200, 14400), (62537860800, 10800), (62553589200, 14400), (62569396800, 10800),
    (62585211600, 14400), (62600943600, 10800), (62616668400, 14400), (62632393200, 10800),
    (62648118000, 14400), (62663842800, 10800), (62679567600, 14400), (62695292400, 10800),
    (62711017200, 14400), (62726742000, 10800), (62742466800, 14400), (62758191600, 10800),
    (62773916400, 14400), (62790246000, 10800), (62821699200, 7200), (62831376000, 10800),
    (62837420400, 14400), (62853145200, 10800), (62868870000, 14400), (62884594800, 10800),
    (62900319600, 14400), (62916044400, 10800), (62931769200, 14400), (62947494000, 10800),
    (62963823600, 14400), (62981967600, 10800), (62995273200, 14400), (63013417200, 10800),
    (63026722800, 14400), (63044866800, 10800), (63058172400, 14400), (63076921200, 10800),
    (63089622000, 14400), (63108370800, 10800), (63121071600, 14400), (63139820400, 10800),
    (63153126000, 14400), (63171270000, 10800), (63184575600, 14400), (63202719600, 10800),
    (63216025200, 14400), (63234774000, 10800), (63247474800, 14400), (63266223600, 10800),
    (63278924400, 14400), (63297673200, 10800), (63310374000, 14400), (63329122800, 10800),
    (63342428400, 14400), (63360572400, 10800), (63373878000, 14400), (63392022000, 10800),
    (63405327600, 14400), (63424076400, 10800), (63436777200, 14400), (63549871200, 10800)]
  after := .fixed 10800

def istanbul : Zone where
  before := 6952
  changes := [
    (59295449048, 7016), (60265720984, 7200), (60441890400, 10800), (60455106000, 7200),
    (60565183200, 10800), (60583410000, 7200), (60597237600, 10800), (60613045200, 7200),
    (60628082400, 10800), (60645013200, 7200), (60695388000, 10800), (60707566800, 7200),
    (60725887200, 10800), (60739102800, 7200), (61204543200, 10800), (61212920400, 7200),
    (61217762400, 10800), (61243160400, 7200), (61259752800, 10800), (61370859600, 7200),
    (61391253600, 10800), (61401790800, 7200), (61419160800, 10800), (61433672400, 7200),
    (61450610400, 10800), (61465122000, 7200), (61481455200, 10800), (61496571600, 7200),
    (61513509600, 10800), (61528626000, 7200), (61545564000, 10800), (61560075600, 7200),
    (61899976800, 10800), (61940754000, 7200), (61957864800, 10800), (61969870800, 7200),
    (62243506800, 10800), (62256812400, 7200), (62269516800, 10800), (62288262000, 7200),
    (62300275200, 10800), (62319711600, 7200), (62331811200, 10800), (62351161200, 7200),
    (62364470400, 10800), (62381401200, 7200), (62395920000, 10800), (62564050800, 14400),
    (62569490400, 10800), (62603708400, 7200), (62618396400, 10800), (62632306800, 7200),
    (62648118000, 10800), (62663842800, 7200), (62679567600, 10800), (62695292400, 7200),
    (62711017200, 10800), (62726742000, 7200), (62742466800, 10800), (62758191600, 7200),
    (62773916400, 10800), (62790246000, 7200), (62805970800, 10800), (62821695600, 7200),
    (62837420400, 10800), (62853145200, 7200), (62868870000, 10800), (62884594800, 7200),
    (62899714800, 10800), (62916044400, 7200), (62931769200, 10800), (62947494000, 7200),
    (62963823600, 10800), (62981967600, 7200), (62995273200, 10800), (63013417200, 7200),
    (63026722800, 10800), (63044866800, 7200), (63058172400, 10800), (63076921200, 7200),
    (63089622000, 10800), (63108370800, 7200), (63121071600, 10800), (63139820400, 7200),
    (63153126000, 10800), (63171270000, 7200), (63184575600, 10800), (63202719600, 7200),
    (63216025200, 10800), (63234774000, 7200), (63247474800, 10800), (63266223600, 7200),
    (63278924400, 10800), (63297673200, 7200), (63310381200, 10800), (63329130000, 7200),
    (63342435600, 10800), (63360579600, 7200), (63373885200, 10800), (63392029200, 7200),
    (63405334800, 10800), (63424083600, 7200), (63436870800, 10800), (63455533200, 7200),
    (63468234000, 10800), (63486982800, 7200), (63500288400, 10800), (63518432400, 7200),
    (63531824400, 10800), (63549882000, 7200), (63563187600, 10800), (63582541200, 7200),
    (63594637200, 10800), (63608792400, 10800)]
  after := .fixed 10800

end UptimeAlert.Zone
