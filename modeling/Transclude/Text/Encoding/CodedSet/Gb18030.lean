import Transclude.Text.Encoding.CodedSet.Basic

/-!
# GB 18030

What GB 18030 has beside GBK, in 126 rows of 190 places, and the characters that it leaves to four
bytes.
-/

namespace Transclude.CodedSet

/-- The characters that GB 18030 adds to GBK. -/
def gb18030 : CodedSet where
  runs :=
    [.consecutive 6080 0xE4C6 96,
     .consecutive 6270 0xE526 96,
     .consecutive 6376 0xE766 6,
     ⟨6432, "€\ue76d"⟩,
     ⟨6444, "\ue76e\ue76f"⟩,
     ⟨6458, "\ue770\ue771"⟩,
     .consecutive 6460 0xE586 96,
     .consecutive 6650 0xE5E6 96,
     .consecutive 6829 0xE772 11,
     .consecutive 6840 0xE646 96,
     .consecutive 7022 0xE77D 8,
     .consecutive 7030 0xE6A6 96,
     .consecutive 7150 0xE785 8,
     .consecutive 7182 0xE78D 7,
     ⟨7201, "\ue794\ue795�����\ue796"⟩,
     .consecutive 7211 0xE797 9,
     .consecutive 7220 0xE706 96,
     .consecutive 7349 0xE7A0 15,
     .consecutive 7397 0xE7AF 13,
     .consecutive 7495 0xE7BC 11,
     ⟨7533, "\ue7c7��ǹ�\ue7c9\ue7ca\ue7cb\ue7cc"⟩,
     .consecutive 7579 0xE7CD 21,
     ⟨7624, "\ue7e2��\ue7e3�\ue7e4\ue7e5\ue7e6"⟩,
     ⟨7672, "〾⿰⿱⿲⿳⿴⿵⿶⿷⿸⿹⿺⿻"⟩,
     .consecutive 7686 0xE7F4 13,
     .consecutive 7775 0xE801 15,
     .consecutive 7886 0xE000 94,
     .consecutive 8076 0xE05E 94,
     .consecutive 8266 0xE0BC 94,
     .consecutive 8456 0xE11A 94,
     .consecutive 8646 0xE178 94,
     .consecutive 8836 0xE1D6 94,
     ⟨16525, "\ue810\ue811\ue812\ue813\ue814"⟩,
     .consecutive 22706 0xE234 94,
     .consecutive 22896 0xE292 94,
     .consecutive 23086 0xE2F0 94,
     .consecutive 23276 0xE34E 94,
     .consecutive 23466 0xE3AC 94,
     .consecutive 23656 0xE40A 94,
     ⟨23766, "⺁\ue816\ue817\ue818⺄㑳㑇⺈⺋\ue81e㖞㘚㘎⺌⺗㥮㤘\ue826㧏㧟㩳㧐\ue82b\ue82c㭎㱮㳠⺧\ue831\ue832⺪䁖䅟⺮䌷"⟩,
     ⟨23801, "⺳⺶⺷\ue83b䎱䎬⺻䏝䓖䙡䙌\ue843䜣䜩䝼䞍⻊䥇䥺䥽䦂䦃䦅䦆䦟䦛䦷䦶\ue854\ue855䲣䲟䲠䲡䱷䲢䴓䴔䴕䴖䴗䴘䴙䶮\ue864"⟩,
     .consecutive 23846 0xE468 94]

/-- The first and the last of each stretch of code points above ASCII and below 65536 that have no two
bytes in GB 18030. -/
def gb18030Gaps : List (Nat × Nat) :=
  [(128, 163), (165, 166), (169, 175), (178, 182), (184, 214), (216, 223), (226, 231), (235, 235),
   (238, 241), (244, 246), (248, 248), (251, 251), (253, 256), (258, 274), (276, 282), (284, 298),
   (300, 323), (325, 327), (329, 332), (334, 362), (364, 461), (463, 463), (465, 465), (467, 467),
   (469, 469), (471, 471), (473, 473), (475, 475), (477, 504), (506, 592), (594, 608), (610, 710),
   (712, 712), (716, 728), (730, 912), (930, 930), (938, 944), (962, 962), (970, 1024),
   (1026, 1039), (1104, 1104), (1106, 8207), (8209, 8210), (8215, 8215), (8218, 8219),
   (8222, 8228), (8231, 8239), (8241, 8241), (8244, 8244), (8246, 8250), (8252, 8363),
   (8365, 8450), (8452, 8452), (8454, 8456), (8458, 8469), (8471, 8480), (8482, 8543),
   (8556, 8559), (8570, 8591), (8596, 8597), (8602, 8711), (8713, 8718), (8720, 8720),
   (8722, 8724), (8726, 8729), (8731, 8732), (8737, 8738), (8740, 8740), (8742, 8742),
   (8748, 8749), (8751, 8755), (8760, 8764), (8766, 8775), (8777, 8779), (8781, 8785),
   (8787, 8799), (8802, 8803), (8808, 8813), (8816, 8852), (8854, 8856), (8858, 8868),
   (8870, 8894), (8896, 8977), (8979, 9311), (9322, 9331), (9372, 9471), (9548, 9551),
   (9588, 9600), (9616, 9618), (9622, 9631), (9634, 9649), (9652, 9659), (9662, 9669),
   (9672, 9674), (9676, 9677), (9680, 9697), (9702, 9732), (9735, 9736), (9738, 9791),
   (9793, 9793), (9795, 11904), (11906, 11907), (11909, 11911), (11913, 11914), (11917, 11926),
   (11928, 11942), (11944, 11945), (11947, 11949), (11951, 11954), (11956, 11957), (11960, 11962),
   (11964, 11977), (11979, 12271), (12284, 12287), (12292, 12292), (12312, 12316), (12319, 12320),
   (12330, 12349), (12351, 12352), (12436, 12442), (12447, 12448), (12535, 12539), (12543, 12548),
   (12586, 12831), (12842, 12848), (12850, 12962), (12964, 13197), (13200, 13211), (13215, 13216),
   (13218, 13251), (13253, 13261), (13263, 13264), (13267, 13268), (13270, 13382), (13384, 13426),
   (13428, 13725), (13727, 13837), (13839, 13849), (13851, 14615), (14617, 14701), (14703, 14798),
   (14801, 14814), (14816, 14962), (14964, 15181), (15183, 15469), (15471, 15583), (15585, 16469),
   (16471, 16734), (16736, 17206), (17208, 17323), (17325, 17328), (17330, 17372), (17374, 17621),
   (17623, 17995), (17997, 18016), (18018, 18210), (18212, 18216), (18218, 18299), (18301, 18316),
   (18318, 18758), (18760, 18809), (18811, 18812), (18814, 18817), (18820, 18820), (18823, 18842),
   (18844, 18846), (18848, 18869), (18872, 19574), (19576, 19614), (19620, 19730), (19738, 19885),
   (19887, 19967), (40870, 55295), (59244, 59244), (59336, 59336), (59367, 59379), (59413, 59413),
   (59417, 59421), (59423, 59429), (59431, 59434), (59437, 59440), (59443, 59450), (59452, 59458),
   (59460, 59475), (59478, 59491), (59493, 63787), (63789, 63864), (63866, 63892), (63894, 63974),
   (63976, 63984), (63986, 64011), (64016, 64016), (64018, 64018), (64021, 64023), (64025, 64030),
   (64034, 64034), (64037, 64038), (64042, 65071), (65074, 65074), (65093, 65096), (65107, 65107),
   (65112, 65112), (65127, 65127), (65132, 65280), (65375, 65503), (65510, 65535)]

end Transclude.CodedSet
