import UptimeAlert.Calendar.Zone

namespace UptimeAlert.Zone

def tokyo : Zone where
  before := 33539
  changes := [
    (59547884400, 32400), (61451794800, 36000), (61463286000, 32400), (61480825200, 36000),
    (61494735600, 32400), (61515298800, 36000), (61526185200, 32400), (61546748400, 36000),
    (61557634800, 32400)]
  after := .fixed 32400

def kolkata : Zone where
  before := 21208
  changes := [
    (58490359592, 21200), (58979902000, 19270), (60115891130, 19800), (61244015400, 23400),
    (61263538200, 19800), (61272959400, 23400), (61371451800, 19800)]
  after := .fixed 19800

def kathmandu : Zone where
  before := 20476
  changes := [
    (60557653124, 19800), (62640498600, 20700)]
  after := .fixed 20700

def tehran : Zone where
  before := 12344
  changes := [
    (61045130056, 12600), (62363417400, 16200), (62381820600, 14400), (62395214400, 18000),
    (62406705600, 14400), (62415172800, 12600), (62432195400, 16200), (62442127800, 12600),
    (62458029000, 16200), (62474095800, 12600), (62808813000, 16200), (62821078200, 12600),
    (62836806600, 16200), (62852700600, 12600), (62868342600, 16200), (62884236600, 12600),
    (62899878600, 16200), (62915772600, 12600), (62931414600, 16200), (62947308600, 12600),
    (62962950600, 16200), (62978844600, 12600), (62994573000, 16200), (63010467000, 12600),
    (63026109000, 16200), (63042003000, 12600), (63057645000, 16200), (63073539000, 12600),
    (63089181000, 16200), (63105075000, 12600), (63120803400, 16200), (63136697400, 12600),
    (63152339400, 16200), (63168233400, 12600), (63183875400, 16200), (63199769400, 12600),
    (63215411400, 16200), (63231305400, 12600), (63247033800, 16200), (63262927800, 12600),
    (63341641800, 16200), (63357535800, 12600), (63373264200, 16200), (63389158200, 12600),
    (63404800200, 16200), (63420694200, 12600), (63436336200, 16200), (63452230200, 12600),
    (63467872200, 16200), (63483766200, 12600), (63499494600, 16200), (63515388600, 12600),
    (63531030600, 16200), (63546924600, 12600), (63562566600, 16200), (63578460600, 12600),
    (63594102600, 16200), (63609996600, 12600), (63625725000, 16200), (63641619000, 12600),
    (63657261000, 16200), (63673155000, 12600), (63688797000, 16200), (63704691000, 12600),
    (63720333000, 16200), (63736227000, 12600), (63751955400, 16200), (63767849400, 12600),
    (63783491400, 16200), (63799385400, 12600)]
  after := .fixed 12600

def pyongyang : Zone where
  before := 30180
  changes := [
    (60186814620, 30600), (60305182200, 32400), (63575161200, 30600), (63661042800, 32400)]
  after := .fixed 32400

def jerusalem : Zone where
  before := 8454
  changes := [
    (59295447546, 8440), (60494593160, 7200), (61201958400, 10800), (61212499200, 7200),
    (61216560000, 10800), (61278249600, 7200), (61291296000, 10800), (61309785600, 7200),
    (61322918400, 10800), (61341408000, 7200), (61355750400, 10800), (61372944000, 7200),
    (61387286400, 10800), (61404480000, 7200), (61453641600, 14400), (61462368000, 10800),
    (61467638400, 7200), (61483276800, 10800), (61499174400, 7200), (61513516800, 10800),
    (61526649600, 7200), (61543756800, 10800), (61563110400, 7200), (61577020800, 10800),
    (61592745600, 7200), (61607865600, 10800), (61621171200, 7200), (61644758400, 10800),
    (61652620800, 7200), (61676208000, 10800), (61684070400, 7200), (61707052800, 10800),
    (61717334400, 7200), (61735478400, 10800), (61748179200, 7200), (62277976800, 10800),
    (62286440400, 7200), (62302773600, 10800), (62314261200, 7200), (62469698400, 10800),
    (62473327200, 7200), (62588239200, 10800), (62597916000, 7200), (62617874400, 10800),
    (62629966800, 7200), (62652348000, 10800), (62662021200, 7200), (62681032800, 10800),
    (62694075600, 7200), (62712223200, 10800), (62724920400, 7200), (62745487200, 10800),
    (62756370000, 7200), (62773912800, 10800), (62787214800, 7200), (62805362400, 10800),
    (62819269200, 7200), (62837416800, 10800), (62851323600, 7200), (62869298400, 10800),
    (62882773200, 7200), (62900748000, 10800), (62913618000, 7200), (62932197600, 10800),
    (62945672400, 7200), (62962437600, 10800), (62978418000, 7200), (62994492000, 10800),
    (63009781200, 7200), (63025941600, 10800), (63040626000, 7200), (63058608000, 10800),
    (63071910000, 7200), (63091267200, 10800), (63106380000, 7200), (63122367600, 10800),
    (63136879200, 7200), (63152953200, 10800), (63169538400, 7200), (63184402800, 10800),
    (63200728800, 7200), (63216889200, 10800), (63231400800, 7200), (63247910400, 10800),
    (63264409200, 7200), (63279360000, 10800), (63295254000, 7200), (63310809600, 10800),
    (63325494000, 7200), (63342259200, 10800), (63358758000, 7200), (63373708800, 10800),
    (63389602800, 7200), (63405158400, 10800), (63419842800, 7200), (63437212800, 10800),
    (63453106800, 7200), (63468662400, 10800), (63483951600, 7200), (63500112000, 10800)]
  after := .seasonal 7200 10800 ⟨3, 4, 4, 93600⟩ ⟨10, 5, 0, 7200⟩

end UptimeAlert.Zone
