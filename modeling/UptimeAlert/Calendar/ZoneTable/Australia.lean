import UptimeAlert.Calendar.Zone

namespace UptimeAlert.Zone

def sydney : Zone where
  before := 36292
  changes := [
    (59771483708, 36000), (60463036800, 39600), (60470208000, 36000), (61251955200, 39600),
    (61259472000, 36000), (61275196800, 39600), (61290921600, 36000), (61307251200, 39600),
    (61322371200, 36000), (62193283200, 39600), (62203564800, 36000), (62224732800, 39600),
    (62235619200, 36000), (62256182400, 39600), (62267068800, 36000), (62287632000, 39600),
    (62298518400, 36000), (62319081600, 39600), (62330572800, 36000), (62351136000, 39600),
    (62362022400, 36000), (62382585600, 39600), (62393472000, 36000), (62414035200, 39600),
    (62424921600, 36000), (62445484800, 39600), (62456371200, 36000), (62476934400, 39600),
    (62487820800, 36000), (62508384000, 39600), (62522294400, 36000), (62540438400, 39600),
    (62551324800, 36000), (62571888000, 39600), (62582774400, 36000), (62603337600, 39600),
    (62614224000, 36000), (62634787200, 39600), (62646883200, 36000), (62665632000, 39600),
    (62678332800, 36000), (62697686400, 39600), (62710387200, 36000), (62729740800, 39600),
    (62741836800, 36000), (62761190400, 39600), (62772076800, 36000), (62792640000, 39600),
    (62803526400, 36000), (62824089600, 39600), (62834976000, 36000), (62855539200, 39600),
    (62867030400, 36000), (62887593600, 39600), (62898480000, 36000), (62919043200, 39600),
    (62929929600, 36000), (62950492800, 39600), (62963798400, 36000), (62981942400, 39600),
    (62995248000, 36000), (63013392000, 39600), (63026697600, 36000), (63044841600, 39600),
    (63058147200, 36000), (63076896000, 39600), (63089596800, 36000), (63102902400, 39600),
    (63121046400, 36000), (63139795200, 39600), (63153100800, 36000), (63171244800, 39600),
    (63184550400, 36000), (63202694400, 39600), (63216000000, 36000), (63234748800, 39600),
    (63247449600, 36000), (63266198400, 39600), (63279504000, 36000), (63297648000, 39600),
    (63310348800, 36000), (63329097600, 39600), (63343008000, 36000)]
  after := .seasonal 36000 39600 ⟨10, 1, 0, 7200⟩ ⟨4, 1, 0, 10800⟩

def lordHowe : Zone where
  before := 38180
  changes := [
    (59771481820, 36000), (62487813600, 37800), (62508382200, 41400), (62519869800, 37800),
    (62540436600, 41400), (62551319400, 37800), (62571886200, 41400), (62582769000, 37800),
    (62603335800, 41400), (62614218600, 37800), (62634785400, 39600), (62646879600, 37800),
    (62665630200, 39600), (62678329200, 37800), (62697684600, 39600), (62710383600, 37800),
    (62729739000, 39600), (62741833200, 37800), (62761188600, 39600), (62772073200, 37800),
    (62792638200, 39600), (62803522800, 37800), (62824087800, 39600), (62834972400, 37800),
    (62855537400, 39600), (62867026800, 37800), (62887591800, 39600), (62898476400, 37800),
    (62919041400, 39600), (62929926000, 37800), (62950491000, 39600), (62963794800, 37800),
    (62981940600, 39600), (62995244400, 37800), (63013390200, 39600), (63026694000, 37800),
    (63044839800, 39600), (63058143600, 37800), (63076894200, 39600), (63089593200, 37800),
    (63102900600, 39600), (63121042800, 37800), (63139793400, 39600), (63153097200, 37800),
    (63171243000, 39600), (63184546800, 37800), (63202692600, 39600), (63215996400, 37800),
    (63234747000, 39600), (63247446000, 37800), (63266196600, 39600), (63279500400, 37800),
    (63297646200, 39600), (63310345200, 37800), (63329095800, 39600), (63343004400, 37800)]
  after := .seasonal 37800 39600 ⟨10, 1, 0, 7200⟩ ⟨4, 1, 0, 7200⟩

def eucla : Zone where
  before := 30928
  changes := [
    (59797668272, 31500), (60463041300, 35100), (60470212500, 31500), (61251959700, 35100),
    (61259476500, 31500), (61275201300, 35100), (61290926100, 31500), (62287636500, 35100),
    (62298522900, 31500), (62571892500, 35100), (62582778900, 31500), (62825908500, 35100),
    (62834980500, 31500), (63300676500, 35100), (63310353300, 31500), (63329102100, 35100),
    (63342407700, 31500), (63360551700, 35100), (63373857300, 31500)]
  after := .fixed 31500

end UptimeAlert.Zone
