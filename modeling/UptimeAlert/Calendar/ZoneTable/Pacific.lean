import UptimeAlert.Calendar.Zone

namespace UptimeAlert.Zone

def apia : Zone where
  before := 45184
  changes := [
    (59690172416, -41216), (60273718016, -41400), (61504486200, -39600), (63421095600, -36000),
    (63437349600, -39600), (63452469600, -36000), (63460836000, 50400), (63468799200, 46800),
    (63484524000, 50400), (63500853600, 46800), (63515973600, 50400), (63532303200, 46800),
    (63547423200, 50400), (63563752800, 46800), (63578872800, 50400), (63595202400, 46800),
    (63610322400, 50400), (63626652000, 46800), (63641772000, 50400), (63658101600, 46800),
    (63673826400, 50400), (63690156000, 46800), (63705276000, 50400), (63721605600, 46800),
    (63736725600, 50400), (63753055200, 46800)]
  after := .fixed 46800

def chatham : Zone where
  before := 44028
  changes := [
    (58943159172, 44100), (61378170300, 45900), (62288229600, 49500), (62297906400, 45900),
    (62319074400, 49500), (62330565600, 45900), (62351128800, 49500), (62362015200, 45900),
    (62382578400, 49500), (62393464800, 45900), (62414028000, 49500), (62424914400, 45900),
    (62445477600, 49500), (62456364000, 45900), (62476927200, 49500), (62487813600, 45900),
    (62508376800, 49500), (62519868000, 45900), (62540431200, 49500), (62551317600, 45900),
    (62571880800, 49500), (62582767200, 45900), (62603330400, 49500), (62614216800, 45900),
    (62634780000, 49500), (62645666400, 45900), (62666229600, 49500), (62677116000, 45900),
    (62697679200, 49500), (62709170400, 45900), (62729733600, 49500), (62740620000, 45900),
    (62759368800, 49500), (62773279200, 45900), (62790818400, 49500), (62804728800, 45900),
    (62822268000, 49500), (62836178400, 45900), (62853717600, 49500), (62868232800, 45900),
    (62885167200, 49500), (62899682400, 45900), (62916616800, 49500), (62931132000, 45900),
    (62948066400, 49500), (62962581600, 45900), (62980120800, 49500), (62994031200, 45900),
    (63011570400, 49500), (63025480800, 45900), (63043020000, 49500), (63057535200, 45900),
    (63074469600, 49500), (63088984800, 45900), (63105919200, 49500), (63120434400, 45900),
    (63137973600, 49500), (63151884000, 45900), (63169423200, 49500), (63183333600, 45900),
    (63200872800, 49500), (63215388000, 45900), (63232322400, 49500), (63246837600, 45900),
    (63263772000, 49500), (63278287200, 45900), (63295221600, 49500), (63309736800, 45900),
    (63326671200, 49500)]
  after := .seasonal 45900 49500 ⟨9, 5, 0, 9900⟩ ⟨4, 1, 0, 13500⟩

def kiritimati : Zone where
  before := -37760
  changes := [
    (59958181760, -38400), (62443219200, -36000), (62924464800, 50400)]
  after := .fixed 50400

end UptimeAlert.Zone
