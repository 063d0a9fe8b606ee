import UptimeAlert.Calendar.Zone

namespace UptimeAlert.Zone

def cairo : Zone where
  before := 7509
  changes := [
    (59950187691, 7200), (61205752800, 10800), (61212488400, 7200), (61229426400, 10800),
    (61242728400, 7200), (61259752800, 10800), (61277806800, 7200), (61291288800, 10800),
    (61309774800, 7200), (61322911200, 10800), (61341397200, 7200), (61355743200, 10800),
    (61372933200, 7200), (61736508000, 10800), (61748946000, 7200), (61767266400, 10800),
    (61780482000, 7200), (61798806000, 10800), (61811942400, 7200), (61830428400, 10800),
    (61843564800, 7200), (61861964400, 10800), (61875100800, 7200), (61893500400, 10800),
    (61906636800, 7200), (61925036400, 10800), (61938172800, 7200), (61956658800, 10800),
    (61969795200, 7200), (61988194800, 10800), (62001331200, 7200), (62019730800, 10800),
    (62032953600, 7200), (62051266800, 10800), (62064489600, 7200), (62082889200, 10800),
    (62096112000, 7200), (62114425200, 10800), (62127648000, 7200), (62145961200, 10800),
    (62159184000, 7200), (62177497200, 10800), (62190720000, 7200), (62209119600, 10800),
    (62222342400, 7200), (62240655600, 10800), (62253878400, 7200), (62272191600, 10800),
    (62285414400, 7200), (62303727600, 10800), (62316950400, 7200), (62335350000, 10800),
    (62348572800, 7200), (62366886000, 10800), (62380108800, 7200), (62398422000, 10800),
    (62411644800, 7200), (62429958000, 10800), (62443180800, 7200), (62461580400, 10800),
    (62474803200, 7200), (62493116400, 10800), (62506339200, 7200), (62531996400, 10800),
    (62537875200, 7200), (62562409200, 10800), (62569411200, 7200), (62587810800, 10800),
    (62601033600, 7200), (62619346800, 10800), (62632569600, 7200), (62650882800, 10800),
    (62664105600, 7200), (62682418800, 10800), (62695641600, 7200), (62714041200, 10800),
    (62727264000, 7200), (62746009200, 10800), (62758800000, 7200), (62777113200, 10800),
    (62790336000, 7200), (62808649200, 10800), (62821872000, 7200), (62840271600, 10800),
    (62853494400, 7200), (62871807600, 10800), (62885030400, 7200), (62903343600, 10800),
    (62916566400, 7200), (62934616800, 10800), (62947918800, 7200), (62966066400, 10800),
    (62979368400, 7200), (62997516000, 10800), (63010818000, 7200), (63028965600, 10800),
    (63042267600, 7200), (63061020000, 10800), (63074322000, 7200), (63092469600, 10800),
    (63105771600, 7200), (63123919200, 10800), (63137221200, 7200), (63155368800, 10800),
    (63168670800, 7200), (63186818400, 10800), (63200120400, 7200), (63218872800, 10800),
    (63232174800, 7200), (63250322400, 10800), (63263624400, 7200), (63281772000, 10800),
    (63294469200, 7200), (63313221600, 10800), (63324709200, 7200), (63344671200, 10800),
    (63355554000, 7200), (63376120800, 10800), (63386398800, 7200), (63408175200, 10800),
    (63417070800, 7200), (63419666400, 10800), (63421477200, 7200), (63535788000, 10800),
    (63539413200, 7200), (63542440800, 10800), (63547275600, 7200), (63818229600, 10800)]
  after := .seasonal 7200 10800 ⟨4, 5, 5, 0⟩ ⟨10, 5, 4, 86400⟩

def monrovia : Zone where
  before := -2588
  changes := [
    (60531237788, -2670), (62199189870, 0)]
  after := .fixed 0

end UptimeAlert.Zone
