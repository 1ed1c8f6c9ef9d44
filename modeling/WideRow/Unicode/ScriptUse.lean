import WideRow.Unicode.Script

namespace WideRow.Unicode

structure SharedUse where
  scripts : List String
  members : CodeSet

set_option maxRecDepth 20000 in
def sharedUses : List SharedUse := [
  ⟨["avst", "cari", "copt", "dupl", "elba", "geor", "glag", "goth", "grek", "gong", "han",
    "latn", "lydi", "mahj", "perm", "shaw"],
    ⟨[(183, 183)]⟩⟩,
  ⟨["beng", "cyrl", "deva", "latn", "lisu", "thai", "toto"], ⟨[(700, 700)]⟩⟩,
  ⟨["bopo", "latn"], ⟨[(711, 711), (713, 715), (729, 729)]⟩⟩,
  ⟨["latn", "lisu"], ⟨[(717, 717)]⟩⟩,
  ⟨["latn", "thai"], ⟨[(727, 727)]⟩⟩,
  ⟨["cher", "copt", "cyrl", "grek", "latn", "perm", "sunu", "tale"], ⟨[(768, 768)]⟩⟩,
  ⟨["cher", "cyrl", "grek", "latn", "osge", "sunu", "tale", "todr"], ⟨[(769, 769)]⟩⟩,
  ⟨["cher", "cyrl", "latn", "tfng"], ⟨[(770, 770)]⟩⟩,
  ⟨["glag", "latn", "sunu", "syrc", "thai"], ⟨[(771, 771)]⟩⟩,
  ⟨["aghb", "cher", "copt", "cyrl", "goth", "grek", "latn", "osge", "syrc", "tfng", "todr"],
    ⟨[(772, 772)]⟩⟩,
  ⟨["copt", "elba", "glag", "goth", "kana", "latn"], ⟨[(773, 773)]⟩⟩,
  ⟨["cyrl", "grek", "latn", "perm"], ⟨[(774, 774)]⟩⟩,
  ⟨["copt", "dupl", "hebr", "latn", "perm", "syrc", "tale", "tfng", "todr"], ⟨[(775, 775)]⟩⟩,
  ⟨["armn", "cyrl", "dupl", "goth", "grek", "hebr", "latn", "perm", "syrc", "tale"],
    ⟨[(776, 776)]⟩⟩,
  ⟨["latn", "tfng"], ⟨[(777, 777)]⟩⟩,
  ⟨["dupl", "latn", "syrc"], ⟨[(778, 778)]⟩⟩,
  ⟨["cher", "cyrl", "latn", "osge"], ⟨[(779, 779)]⟩⟩,
  ⟨["cher", "latn", "tale"], ⟨[(780, 780)]⟩⟩,
  ⟨["latn", "sunu"], ⟨[(781, 781), (784, 784)]⟩⟩,
  ⟨["ethi", "latn"], ⟨[(782, 782)]⟩⟩,
  ⟨["cyrl", "latn", "todr"], ⟨[(785, 785)]⟩⟩,
  ⟨["grek", "latn", "perm", "todr"], ⟨[(787, 787)]⟩⟩,
  ⟨["latn", "syrc"], ⟨[(800, 800), (805, 805), (814, 814)]⟩⟩,
  ⟨["cher", "dupl", "kana", "latn", "syrc"], ⟨[(803, 803)]⟩⟩,
  ⟨["cher", "dupl", "latn", "syrc"], ⟨[(804, 804)]⟩⟩,
  ⟨["latn", "sunu", "syrc"], ⟨[(813, 813)]⟩⟩,
  ⟨["cher", "latn", "syrc"], ⟨[(816, 816)]⟩⟩,
  ⟨["aghb", "cher", "goth", "latn", "sunu", "thai"], ⟨[(817, 817)]⟩⟩,
  ⟨["grek"], ⟨[(834, 834), (837, 837), (7616, 7617)]⟩⟩,
  ⟨["latn", "osge"], ⟨[(856, 856)]⟩⟩,
  ⟨["aghb", "latn", "todr"], ⟨[(862, 862)]⟩⟩,
  ⟨["latn"], ⟨[(867, 879)]⟩⟩,
  ⟨["copt", "grek"], ⟨[(884, 885)]⟩⟩,
  ⟨["cyrl", "perm"], ⟨[(1155, 1155)]⟩⟩,
  ⟨["cyrl", "glag"], ⟨[(1156, 1156), (1159, 1159), (11843, 11843), (42607, 42607)]⟩⟩,
  ⟨["cyrl", "latn"], ⟨[(1157, 1158)]⟩⟩,
  ⟨["armn", "geor", "glag"], ⟨[(1417, 1417)]⟩⟩,
  ⟨["arab", "gara", "rohg", "nko", "syrc", "thaa", "yezi"], ⟨[(1548, 1548), (1563, 1563)]⟩⟩,
  ⟨["arab", "syrc", "thaa"], ⟨[(1564, 1564)]⟩⟩,
  ⟨["adlm", "arab", "gara", "rohg", "nko", "syrc", "thaa", "yezi"], ⟨[(1567, 1567)]⟩⟩,
  ⟨["adlm", "arab", "rohg", "mand", "mani", "ougr", "phlp", "sogd", "syrc"], ⟨[(1600, 1600)]⟩⟩,
  ⟨["arab", "syrc"], ⟨[(1611, 1621), (1648, 1648)]⟩⟩,
  ⟨["arab", "thaa", "yezi"], ⟨[(1632, 1641)]⟩⟩,
  ⟨["arab", "rohg"], ⟨[(1748, 1748)]⟩⟩,
  ⟨["beng", "deva", "gran", "gujr", "guru", "knda", "latn", "mlym", "orya", "shrd", "taml",
    "telu", "tirh"],
    ⟨[(2385, 2385)]⟩⟩,
  ⟨["beng", "deva", "gran", "gujr", "guru", "knda", "latn", "mlym", "orya", "taml", "telu",
    "tirh"],
    ⟨[(2386, 2386)]⟩⟩,
  ⟨["beng", "deva", "dogr", "gran", "gujr", "gong", "guru", "knda", "sind", "mahj", "mlym",
    "gonm", "nand", "onao", "orya", "sinh", "sylo", "takr", "taml", "telu", "tirh"],
    ⟨[(2404, 2404)]⟩⟩,
  ⟨["beng", "deva", "dogr", "gran", "gujr", "gong", "guru", "gukh", "knda", "sind", "limb",
    "mahj", "mlym", "gonm", "nand", "onao", "orya", "sinh", "sylo", "takr", "taml", "telu",
    "tirh"],
    ⟨[(2405, 2405)]⟩⟩,
  ⟨["deva", "dogr", "kthi", "mahj"], ⟨[(2406, 2415)]⟩⟩,
  ⟨["beng", "cakm", "sylo"], ⟨[(2534, 2543)]⟩⟩,
  ⟨["guru", "mult"], ⟨[(2662, 2671)]⟩⟩,
  ⟨["gujr", "khoj"], ⟨[(2790, 2799)]⟩⟩,
  ⟨["gran", "taml"],
    ⟨[(3046, 3059), (70401, 70401), (70403, 70403), (70459, 70460), (73680, 73681),
      (73683, 73683)]⟩⟩,
  ⟨["knda", "nand", "tutg"], ⟨[(3302, 3311)]⟩⟩,
  ⟨["cakm", "mymr", "tale"], ⟨[(4160, 4169)]⟩⟩,
  ⟨["geor", "glag", "latn"], ⟨[(4347, 4347)]⟩⟩,
  ⟨["runr"], ⟨[(5867, 5869)]⟩⟩,
  ⟨["buhd", "hano", "tglg", "tagb"], ⟨[(5941, 5942)]⟩⟩,
  ⟨["mong", "phag"], ⟨[(6146, 6147), (6149, 6149)]⟩⟩,
  ⟨["beng", "deva", "gran", "knda"], ⟨[(7376, 7376), (7378, 7378)]⟩⟩,
  ⟨["deva"],
    ⟨[(7377, 7377), (7380, 7380), (7387, 7387), (7390, 7391), (7394, 7400), (7403, 7404),
      (7406, 7409)]⟩⟩,
  ⟨["deva", "gran", "knda"], ⟨[(7379, 7379)]⟩⟩,
  ⟨["beng", "deva"],
    ⟨[(7381, 7382), (7384, 7384), (7393, 7393), (7402, 7402), (7405, 7405), (7413, 7414)]⟩⟩,
  ⟨["deva", "shrd"], ⟨[(7383, 7383), (7385, 7385), (7388, 7389), (7392, 7392)]⟩⟩,
  ⟨["deva", "knda", "mlym", "orya", "taml", "telu"], ⟨[(7386, 7386)]⟩⟩,
  ⟨["deva", "nand"], ⟨[(7401, 7401)]⟩⟩,
  ⟨["beng", "deva", "gran", "knda", "mlym", "nand", "orya", "sinh", "telu", "tirh", "tutg"],
    ⟨[(7410, 7410)]⟩⟩,
  ⟨["deva", "gran"], ⟨[(7411, 7411), (7416, 7417)]⟩⟩,
  ⟨["deva", "gran", "knda", "tutg"], ⟨[(7412, 7412)]⟩⟩,
  ⟨["beng"], ⟨[(7415, 7415)]⟩⟩,
  ⟨["nand"], ⟨[(7418, 7418)]⟩⟩,
  ⟨["cyrl", "latn", "syrc"], ⟨[(7672, 7672)]⟩⟩,
  ⟨["syrc"], ⟨[(7674, 7674)]⟩⟩,
  ⟨["latn", "mong", "phag"], ⟨[(8239, 8239)]⟩⟩,
  ⟨["adlm", "arab"], ⟨[(8271, 8271)]⟩⟩,
  ⟨["cari", "geor", "glag", "lyci", "hung", "orkh"], ⟨[(8282, 8282)]⟩⟩,
  ⟨["cari", "grek", "mero", "hung"], ⟨[(8285, 8285)]⟩⟩,
  ⟨["deva", "gran", "latn"], ⟨[(8432, 8432)]⟩⟩,
  ⟨["copt", "latn"], ⟨[(11799, 11799)]⟩⟩,
  ⟨["avst", "orkh"], ⟨[(11824, 11824)]⟩⟩,
  ⟨["avst", "cari", "geor", "kthi", "lydi", "hung", "samr"], ⟨[(11825, 11825)]⟩⟩,
  ⟨["dupl"], ⟨[(11836, 11836), (113824, 113827)]⟩⟩,
  ⟨["adlm", "arab", "hung"], ⟨[(11841, 11841)]⟩⟩,
  ⟨["han", "tang"], ⟨[(12272, 12287), (12783, 12783)]⟩⟩,
  ⟨["bopo", "han", "hang", "hira", "kana", "mong", "yi"], ⟨[(12289, 12289)]⟩⟩,
  ⟨["bopo", "han", "hang", "hira", "kana", "mong", "phag", "yi"], ⟨[(12290, 12290)]⟩⟩,
  ⟨["bopo", "han", "hang", "hira", "kana"],
    ⟨[(12291, 12291), (12307, 12307), (12316, 12319), (12336, 12336), (12343, 12343),
      (65093, 65094)]⟩⟩,
  ⟨["han"],
    ⟨[(12294, 12294), (12350, 12351), (12688, 12703), (12736, 12773), (12832, 12871),
      (12928, 12976), (12992, 13003), (13055, 13055), (13144, 13168), (13179, 13183),
      (13280, 13310), (119648, 119665), (127568, 127569)]⟩⟩,
  ⟨["bopo", "han", "hang", "hira", "kana", "mong", "tibt", "yi"], ⟨[(12296, 12297)]⟩⟩,
  ⟨["bopo", "han", "hang", "hira", "kana", "lisu", "mong", "tibt", "yi"], ⟨[(12298, 12299)]⟩⟩,
  ⟨["bopo", "han", "hang", "hira", "kana", "yi"],
    ⟨[(12300, 12305), (12308, 12315), (12539, 12539), (65377, 65381)]⟩⟩,
  ⟨["bopo", "han"], ⟨[(12330, 12333)]⟩⟩,
  ⟨["hira", "kana"],
    ⟨[(12337, 12341), (12441, 12444), (12448, 12448), (12540, 12540), (65392, 65392),
      (65438, 65439)]⟩⟩,
  ⟨["han", "hira", "kana"], ⟨[(12348, 12349)]⟩⟩,
  ⟨["han", "latn"], ⟨[(42752, 42759)]⟩⟩,
  ⟨["deva", "dogr", "gujr", "guru", "kthi", "knda", "khoj", "sind", "mahj", "mlym", "modi",
    "nand", "shrd", "takr", "tirh", "tutg"],
    ⟨[(43056, 43058)]⟩⟩,
  ⟨["deva", "dogr", "gujr", "guru", "kthi", "knda", "khoj", "sind", "mahj", "modi", "nand",
    "shrd", "takr", "tirh", "tutg"],
    ⟨[(43059, 43061)]⟩⟩,
  ⟨["deva", "dogr", "gujr", "guru", "kthi", "khoj", "sind", "mahj", "modi", "takr", "tirh"],
    ⟨[(43062, 43063), (43065, 43065)]⟩⟩,
  ⟨["deva", "dogr", "gujr", "guru", "kthi", "khoj", "sind", "mahj", "modi", "shrd", "takr",
    "tirh"],
    ⟨[(43064, 43064)]⟩⟩,
  ⟨["beng", "deva", "tutg"], ⟨[(43249, 43249)]⟩⟩,
  ⟨["deva", "taml"], ⟨[(43251, 43251)]⟩⟩,
  ⟨["kali", "latn", "mymr"], ⟨[(43310, 43310)]⟩⟩,
  ⟨["bugi", "java"], ⟨[(43471, 43471)]⟩⟩,
  ⟨["arab", "nko"], ⟨[(64830, 64831)]⟩⟩,
  ⟨["arab", "thaa"], ⟨[(65010, 65010), (65021, 65021)]⟩⟩,
  ⟨["cprt", "cpmn", "linb"], ⟨[(65792, 65793)]⟩⟩,
  ⟨["cprt", "linb"], ⟨[(65794, 65794), (65847, 65855)]⟩⟩,
  ⟨["cprt", "lina", "linb"], ⟨[(65799, 65843)]⟩⟩,
  ⟨["arab", "copt"], ⟨[(66272, 66299)]⟩⟩,
  ⟨["mani", "ougr"], ⟨[(68338, 68338)]⟩⟩]

def Script.uses (s : Script) : CodeSet :=
  let named (u : SharedUse) : Bool := u.scripts.any s.names.contains
  let shared := CodeSet.unions (sharedUses.map (·.members))
  (s.members.diff shared).union (.unions ((sharedUses.filter named).map (·.members)))

end WideRow.Unicode
