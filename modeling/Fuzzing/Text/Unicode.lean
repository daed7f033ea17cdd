import Fuzzing.Text

/-!
Letters of both cases, characters that are not shown as they are, and words as names are made of, as tables of the
Unicode standard 14.0 give them. Neighbours mostly lie equally far from their counterparts, so that a run of letters
needs one entry.
-/
namespace Fuzzing.Text

/-- Characters, from a first to a last one in equal steps, that lie equally far from their counterparts. -/
structure CaseRun where
  first : Nat
  last : Nat
  step : Nat
  distance : Int

private def CaseRun.holds (r : CaseRun) (n : Nat) : Bool := r.first ≤ n && n ≤ r.last && (n - r.first) % r.step == 0

/-- The counterpart of a character: that of its run, or the character itself where no run holds it. -/
private def counterpart (runs : List CaseRun) (c : Char) : Char :=
  match runs.find? (·.holds c.toNat) with
  | some r => Char.ofNat (c.toNat + r.distance).toNat
  | none => c

/-- Characters by their ranges, each from a first to a last one. -/
private abbrev Ranges := List (Nat × Nat)

private def Ranges.hold (ranges : Ranges) (c : Char) : Bool := ranges.any fun r => r.1 ≤ c.toNat && c.toNat ≤ r.2

private def capitalRuns : List CaseRun :=
  [⟨97,122,1,-32⟩,⟨181,181,1,743⟩,⟨224,246,1,-32⟩,⟨248,254,1,-32⟩,⟨255,255,1,121⟩,⟨257,303,2,-1⟩,
   ⟨305,305,1,-232⟩,⟨307,311,2,-1⟩,⟨314,328,2,-1⟩,⟨331,375,2,-1⟩,⟨378,382,2,-1⟩,⟨383,383,1,-300⟩,
   ⟨384,384,1,195⟩,⟨387,389,2,-1⟩,⟨392,392,1,-1⟩,⟨396,396,1,-1⟩,⟨402,402,1,-1⟩,⟨405,405,1,97⟩,⟨409,409,1,-1⟩,
   ⟨410,410,1,163⟩,⟨414,414,1,130⟩,⟨417,421,2,-1⟩,⟨424,424,1,-1⟩,⟨429,429,1,-1⟩,⟨432,432,1,-1⟩,⟨436,438,2,-1⟩,
   ⟨441,441,1,-1⟩,⟨445,445,1,-1⟩,⟨447,447,1,56⟩,⟨453,453,1,-1⟩,⟨454,454,1,-2⟩,⟨456,456,1,-1⟩,⟨457,457,1,-2⟩,
   ⟨459,459,1,-1⟩,⟨460,460,1,-2⟩,⟨462,476,2,-1⟩,⟨477,477,1,-79⟩,⟨479,495,2,-1⟩,⟨498,498,1,-1⟩,⟨499,499,1,-2⟩,
   ⟨501,501,1,-1⟩,⟨505,543,2,-1⟩,⟨547,563,2,-1⟩,⟨572,572,1,-1⟩,⟨575,576,1,10815⟩,⟨578,578,1,-1⟩,
   ⟨583,591,2,-1⟩,⟨592,592,1,10783⟩,⟨593,593,1,10780⟩,⟨594,594,1,10782⟩,⟨595,595,1,-210⟩,⟨596,596,1,-206⟩,
   ⟨598,599,1,-205⟩,⟨601,601,1,-202⟩,⟨603,603,1,-203⟩,⟨604,604,1,42319⟩,⟨608,608,1,-205⟩,⟨609,609,1,42315⟩,
   ⟨611,611,1,-207⟩,⟨613,613,1,42280⟩,⟨614,614,1,42308⟩,⟨616,616,1,-209⟩,⟨617,617,1,-211⟩,⟨618,618,1,42308⟩,
   ⟨619,619,1,10743⟩,⟨620,620,1,42305⟩,⟨623,623,1,-211⟩,⟨625,625,1,10749⟩,⟨626,626,1,-213⟩,⟨629,629,1,-214⟩,
   ⟨637,637,1,10727⟩,⟨640,640,1,-218⟩,⟨642,642,1,42307⟩,⟨643,643,1,-218⟩,⟨647,647,1,42282⟩,⟨648,648,1,-218⟩,
   ⟨649,649,1,-69⟩,⟨650,651,1,-217⟩,⟨652,652,1,-71⟩,⟨658,658,1,-219⟩,⟨669,669,1,42261⟩,⟨670,670,1,42258⟩,
   ⟨837,837,1,84⟩,⟨881,883,2,-1⟩,⟨887,887,1,-1⟩,⟨891,893,1,130⟩,⟨940,940,1,-38⟩,⟨941,943,1,-37⟩,
   ⟨945,961,1,-32⟩,⟨962,962,1,-31⟩,⟨963,971,1,-32⟩,⟨972,972,1,-64⟩,⟨973,974,1,-63⟩,⟨976,976,1,-62⟩,
   ⟨977,977,1,-57⟩,⟨981,981,1,-47⟩,⟨982,982,1,-54⟩,⟨983,983,1,-8⟩,⟨985,1007,2,-1⟩,⟨1008,1008,1,-86⟩,
   ⟨1009,1009,1,-80⟩,⟨1010,1010,1,7⟩,⟨1011,1011,1,-116⟩,⟨1013,1013,1,-96⟩,⟨1016,1016,1,-1⟩,⟨1019,1019,1,-1⟩,
   ⟨1072,1103,1,-32⟩,⟨1104,1119,1,-80⟩,⟨1121,1153,2,-1⟩,⟨1163,1215,2,-1⟩,⟨1218,1230,2,-1⟩,⟨1231,1231,1,-15⟩,
   ⟨1233,1327,2,-1⟩,⟨1377,1414,1,-48⟩,⟨4304,4346,1,3008⟩,⟨4349,4351,1,3008⟩,⟨5112,5117,1,-8⟩,
   ⟨7296,7296,1,-6254⟩,⟨7297,7297,1,-6253⟩,⟨7298,7298,1,-6244⟩,⟨7299,7300,1,-6242⟩,⟨7301,7301,1,-6243⟩,
   ⟨7302,7302,1,-6236⟩,⟨7303,7303,1,-6181⟩,⟨7304,7304,1,35266⟩,⟨7545,7545,1,35332⟩,⟨7549,7549,1,3814⟩,
   ⟨7566,7566,1,35384⟩,⟨7681,7829,2,-1⟩,⟨7835,7835,1,-59⟩,⟨7841,7935,2,-1⟩,⟨7936,7943,1,8⟩,⟨7952,7957,1,8⟩,
   ⟨7968,7975,1,8⟩,⟨7984,7991,1,8⟩,⟨8000,8005,1,8⟩,⟨8017,8023,2,8⟩,⟨8032,8039,1,8⟩,⟨8048,8049,1,74⟩,
   ⟨8050,8053,1,86⟩,⟨8054,8055,1,100⟩,⟨8056,8057,1,128⟩,⟨8058,8059,1,112⟩,⟨8060,8061,1,126⟩,⟨8112,8113,1,8⟩,
   ⟨8126,8126,1,-7205⟩,⟨8144,8145,1,8⟩,⟨8160,8161,1,8⟩,⟨8165,8165,1,7⟩,⟨8526,8526,1,-28⟩,⟨8560,8575,1,-16⟩,
   ⟨8580,8580,1,-1⟩,⟨9424,9449,1,-26⟩,⟨11312,11359,1,-48⟩,⟨11361,11361,1,-1⟩,⟨11365,11365,1,-10795⟩,
   ⟨11366,11366,1,-10792⟩,⟨11368,11372,2,-1⟩,⟨11379,11379,1,-1⟩,⟨11382,11382,1,-1⟩,⟨11393,11491,2,-1⟩,
   ⟨11500,11502,2,-1⟩,⟨11507,11507,1,-1⟩,⟨11520,11557,1,-7264⟩,⟨11559,11559,1,-7264⟩,⟨11565,11565,1,-7264⟩,
   ⟨42561,42605,2,-1⟩,⟨42625,42651,2,-1⟩,⟨42787,42799,2,-1⟩,⟨42803,42863,2,-1⟩,⟨42874,42876,2,-1⟩,
   ⟨42879,42887,2,-1⟩,⟨42892,42892,1,-1⟩,⟨42897,42899,2,-1⟩,⟨42900,42900,1,48⟩,⟨42903,42921,2,-1⟩,
   ⟨42933,42947,2,-1⟩,⟨42952,42954,2,-1⟩,⟨42961,42961,1,-1⟩,⟨42967,42969,2,-1⟩,⟨42998,42998,1,-1⟩,
   ⟨43859,43859,1,-928⟩,⟨43888,43967,1,-38864⟩,⟨65345,65370,1,-32⟩,⟨66600,66639,1,-40⟩,⟨66776,66811,1,-40⟩,
   ⟨66967,66977,1,-39⟩,⟨66979,66993,1,-39⟩,⟨66995,67001,1,-39⟩,⟨67003,67004,1,-39⟩,⟨68800,68850,1,-64⟩,
   ⟨71872,71903,1,-32⟩,⟨93792,93823,1,-32⟩,⟨125218,125251,1,-34⟩]

private def capitalSequences : List (Nat × List Nat) :=
  [(223,[83,83]),(329,[700,78]),(496,[74,780]),(912,[921,776,769]),(944,[933,776,769]),(1415,[1333,1362]),
   (7830,[72,817]),(7831,[84,776]),(7832,[87,778]),(7833,[89,778]),(7834,[65,702]),(8016,[933,787]),
   (8018,[933,787,768]),(8020,[933,787,769]),(8022,[933,787,834]),(8064,[7944,921]),(8065,[7945,921]),
   (8066,[7946,921]),(8067,[7947,921]),(8068,[7948,921]),(8069,[7949,921]),(8070,[7950,921]),
   (8071,[7951,921]),(8072,[7944,921]),(8073,[7945,921]),(8074,[7946,921]),(8075,[7947,921]),
   (8076,[7948,921]),(8077,[7949,921]),(8078,[7950,921]),(8079,[7951,921]),(8080,[7976,921]),
   (8081,[7977,921]),(8082,[7978,921]),(8083,[7979,921]),(8084,[7980,921]),(8085,[7981,921]),
   (8086,[7982,921]),(8087,[7983,921]),(8088,[7976,921]),(8089,[7977,921]),(8090,[7978,921]),
   (8091,[7979,921]),(8092,[7980,921]),(8093,[7981,921]),(8094,[7982,921]),(8095,[7983,921]),
   (8096,[8040,921]),(8097,[8041,921]),(8098,[8042,921]),(8099,[8043,921]),(8100,[8044,921]),
   (8101,[8045,921]),(8102,[8046,921]),(8103,[8047,921]),(8104,[8040,921]),(8105,[8041,921]),
   (8106,[8042,921]),(8107,[8043,921]),(8108,[8044,921]),(8109,[8045,921]),(8110,[8046,921]),
   (8111,[8047,921]),(8114,[8122,921]),(8115,[913,921]),(8116,[902,921]),(8118,[913,834]),
   (8119,[913,834,921]),(8124,[913,921]),(8130,[8138,921]),(8131,[919,921]),(8132,[905,921]),(8134,[919,834]),
   (8135,[919,834,921]),(8140,[919,921]),(8146,[921,776,768]),(8147,[921,776,769]),(8150,[921,834]),
   (8151,[921,776,834]),(8162,[933,776,768]),(8163,[933,776,769]),(8164,[929,787]),(8166,[933,834]),
   (8167,[933,776,834]),(8178,[8186,921]),(8179,[937,921]),(8180,[911,921]),(8182,[937,834]),
   (8183,[937,834,921]),(8188,[937,921]),(64256,[70,70]),(64257,[70,73]),(64258,[70,76]),(64259,[70,70,73]),
   (64260,[70,70,76]),(64261,[83,84]),(64262,[83,84]),(64275,[1348,1350]),(64276,[1348,1333]),
   (64277,[1348,1339]),(64278,[1358,1350]),(64279,[1348,1341])]

private def capital (c : Char) : List Char :=
  match capitalSequences.lookup c.toNat with
  | some codes => codes.map Char.ofNat
  | none => [counterpart capitalRuns c]

def capitals (s : String) : String := String.ofList (s.toList.flatMap capital)

/-- The characters with another small letter. -/
private def smallRuns : List CaseRun :=
  [⟨65,90,1,32⟩,⟨192,214,1,32⟩,⟨216,222,1,32⟩,⟨256,302,2,1⟩,⟨306,310,2,1⟩,⟨313,327,2,1⟩,⟨330,374,2,1⟩,
   ⟨376,376,1,-121⟩,⟨377,381,2,1⟩,⟨385,385,1,210⟩,⟨386,388,2,1⟩,⟨390,390,1,206⟩,⟨391,391,1,1⟩,
   ⟨393,394,1,205⟩,⟨395,395,1,1⟩,⟨398,398,1,79⟩,⟨399,399,1,202⟩,⟨400,400,1,203⟩,⟨401,401,1,1⟩,
   ⟨403,403,1,205⟩,⟨404,404,1,207⟩,⟨406,406,1,211⟩,⟨407,407,1,209⟩,⟨408,408,1,1⟩,⟨412,412,1,211⟩,
   ⟨413,413,1,213⟩,⟨415,415,1,214⟩,⟨416,420,2,1⟩,⟨422,422,1,218⟩,⟨423,423,1,1⟩,⟨425,425,1,218⟩,
   ⟨428,428,1,1⟩,⟨430,430,1,218⟩,⟨431,431,1,1⟩,⟨433,434,1,217⟩,⟨435,437,2,1⟩,⟨439,439,1,219⟩,⟨440,440,1,1⟩,
   ⟨444,444,1,1⟩,⟨452,452,1,2⟩,⟨453,453,1,1⟩,⟨455,455,1,2⟩,⟨456,456,1,1⟩,⟨458,458,1,2⟩,⟨459,475,2,1⟩,
   ⟨478,494,2,1⟩,⟨497,497,1,2⟩,⟨498,500,2,1⟩,⟨502,502,1,-97⟩,⟨503,503,1,-56⟩,⟨504,542,2,1⟩,⟨544,544,1,-130⟩,
   ⟨546,562,2,1⟩,⟨570,570,1,10795⟩,⟨571,571,1,1⟩,⟨573,573,1,-163⟩,⟨574,574,1,10792⟩,⟨577,577,1,1⟩,
   ⟨579,579,1,-195⟩,⟨580,580,1,69⟩,⟨581,581,1,71⟩,⟨582,590,2,1⟩,⟨880,882,2,1⟩,⟨886,886,1,1⟩,⟨895,895,1,116⟩,
   ⟨902,902,1,38⟩,⟨904,906,1,37⟩,⟨908,908,1,64⟩,⟨910,911,1,63⟩,⟨913,929,1,32⟩,⟨931,939,1,32⟩,⟨975,975,1,8⟩,
   ⟨984,1006,2,1⟩,⟨1012,1012,1,-60⟩,⟨1015,1015,1,1⟩,⟨1017,1017,1,-7⟩,⟨1018,1018,1,1⟩,⟨1021,1023,1,-130⟩,
   ⟨1024,1039,1,80⟩,⟨1040,1071,1,32⟩,⟨1120,1152,2,1⟩,⟨1162,1214,2,1⟩,⟨1216,1216,1,15⟩,⟨1217,1229,2,1⟩,
   ⟨1232,1326,2,1⟩,⟨1329,1366,1,48⟩,⟨4256,4293,1,7264⟩,⟨4295,4295,1,7264⟩,⟨4301,4301,1,7264⟩,
   ⟨5024,5103,1,38864⟩,⟨5104,5109,1,8⟩,⟨7312,7354,1,-3008⟩,⟨7357,7359,1,-3008⟩,⟨7680,7828,2,1⟩,
   ⟨7838,7838,1,-7615⟩,⟨7840,7934,2,1⟩,⟨7944,7951,1,-8⟩,⟨7960,7965,1,-8⟩,⟨7976,7983,1,-8⟩,⟨7992,7999,1,-8⟩,
   ⟨8008,8013,1,-8⟩,⟨8025,8031,2,-8⟩,⟨8040,8047,1,-8⟩,⟨8072,8079,1,-8⟩,⟨8088,8095,1,-8⟩,⟨8104,8111,1,-8⟩,
   ⟨8120,8121,1,-8⟩,⟨8122,8123,1,-74⟩,⟨8124,8124,1,-9⟩,⟨8136,8139,1,-86⟩,⟨8140,8140,1,-9⟩,⟨8152,8153,1,-8⟩,
   ⟨8154,8155,1,-100⟩,⟨8168,8169,1,-8⟩,⟨8170,8171,1,-112⟩,⟨8172,8172,1,-7⟩,⟨8184,8185,1,-128⟩,
   ⟨8186,8187,1,-126⟩,⟨8188,8188,1,-9⟩,⟨8486,8486,1,-7517⟩,⟨8490,8490,1,-8383⟩,⟨8491,8491,1,-8262⟩,
   ⟨8498,8498,1,28⟩,⟨8544,8559,1,16⟩,⟨8579,8579,1,1⟩,⟨9398,9423,1,26⟩,⟨11264,11311,1,48⟩,⟨11360,11360,1,1⟩,
   ⟨11362,11362,1,-10743⟩,⟨11363,11363,1,-3814⟩,⟨11364,11364,1,-10727⟩,⟨11367,11371,2,1⟩,
   ⟨11373,11373,1,-10780⟩,⟨11374,11374,1,-10749⟩,⟨11375,11375,1,-10783⟩,⟨11376,11376,1,-10782⟩,
   ⟨11378,11378,1,1⟩,⟨11381,11381,1,1⟩,⟨11390,11391,1,-10815⟩,⟨11392,11490,2,1⟩,⟨11499,11501,2,1⟩,
   ⟨11506,11506,1,1⟩,⟨42560,42604,2,1⟩,⟨42624,42650,2,1⟩,⟨42786,42798,2,1⟩,⟨42802,42862,2,1⟩,
   ⟨42873,42875,2,1⟩,⟨42877,42877,1,-35332⟩,⟨42878,42886,2,1⟩,⟨42891,42891,1,1⟩,⟨42893,42893,1,-42280⟩,
   ⟨42896,42898,2,1⟩,⟨42902,42920,2,1⟩,⟨42922,42922,1,-42308⟩,⟨42923,42923,1,-42319⟩,⟨42924,42924,1,-42315⟩,
   ⟨42925,42925,1,-42305⟩,⟨42926,42926,1,-42308⟩,⟨42928,42928,1,-42258⟩,⟨42929,42929,1,-42282⟩,
   ⟨42930,42930,1,-42261⟩,⟨42931,42931,1,928⟩,⟨42932,42946,2,1⟩,⟨42948,42948,1,-48⟩,⟨42949,42949,1,-42307⟩,
   ⟨42950,42950,1,-35384⟩,⟨42951,42953,2,1⟩,⟨42960,42960,1,1⟩,⟨42966,42968,2,1⟩,⟨42997,42997,1,1⟩,
   ⟨65313,65338,1,32⟩,⟨66560,66599,1,40⟩,⟨66736,66771,1,40⟩,⟨66928,66938,1,39⟩,⟨66940,66954,1,39⟩,
   ⟨66956,66962,1,39⟩,⟨66964,66965,1,39⟩,⟨68736,68786,1,64⟩,⟨71840,71871,1,32⟩,⟨93760,93791,1,32⟩,
   ⟨125184,125217,1,34⟩]

/-- The letters with case that count where a word is looked at: marks that are ignored there are not
    among them. -/
private def caseLetters : Ranges :=
  [(65,90),(97,122),(170,170),(181,181),(186,186),(192,214),(216,246),(248,442),(444,447),(452,659),
   (661,687),(880,883),(886,887),(891,893),(895,895),(902,902),(904,906),(908,908),(910,929),(931,1013),
   (1015,1153),(1162,1327),(1329,1366),(1376,1416),(4256,4293),(4295,4295),(4301,4301),(4304,4346),
   (4349,4351),(5024,5109),(5112,5117),(7296,7304),(7312,7354),(7357,7359),(7424,7467),(7531,7543),
   (7545,7578),(7680,7957),(7960,7965),(7968,8005),(8008,8013),(8016,8023),(8025,8025),(8027,8027),
   (8029,8029),(8031,8061),(8064,8116),(8118,8124),(8126,8126),(8130,8132),(8134,8140),(8144,8147),
   (8150,8155),(8160,8172),(8178,8180),(8182,8188),(8450,8450),(8455,8455),(8458,8467),(8469,8469),
   (8473,8477),(8484,8484),(8486,8486),(8488,8488),(8490,8493),(8495,8500),(8505,8505),(8508,8511),
   (8517,8521),(8526,8526),(8544,8575),(8579,8580),(9398,9449),(11264,11387),(11390,11492),(11499,11502),
   (11506,11507),(11520,11557),(11559,11559),(11565,11565),(42560,42605),(42624,42651),(42786,42863),
   (42865,42887),(42891,42894),(42896,42954),(42960,42961),(42963,42963),(42965,42969),(42997,42998),
   (43002,43002),(43824,43866),(43872,43880),(43888,43967),(64256,64262),(64275,64279),(65313,65338),
   (65345,65370),(66560,66639),(66736,66771),(66776,66811),(66928,66938),(66940,66954),(66956,66962),
   (66964,66965),(66967,66977),(66979,66993),(66995,67001),(67003,67004),(68736,68786),(68800,68850),
   (71840,71903),(93760,93823),(119808,119892),(119894,119964),(119966,119967),(119970,119970),
   (119973,119974),(119977,119980),(119982,119993),(119995,119995),(119997,120003),(120005,120069),
   (120071,120074),(120077,120084),(120086,120092),(120094,120121),(120123,120126),(120128,120132),
   (120134,120134),(120138,120144),(120146,120485),(120488,120512),(120514,120538),(120540,120570),
   (120572,120596),(120598,120628),(120630,120654),(120656,120686),(120688,120712),(120714,120744),
   (120746,120770),(120772,120779),(122624,122633),(122635,122654),(125184,125251),(127280,127305),
   (127312,127337),(127344,127369)]

/-- The characters that are ignored where a word is looked at. -/
private def caseIgnored : Ranges :=
  [(39,39),(46,46),(58,58),(94,94),(96,96),(168,168),(173,173),(175,175),(180,180),(183,184),(688,879),
   (884,885),(890,890),(900,901),(903,903),(1155,1161),(1369,1369),(1375,1375),(1425,1469),(1471,1471),
   (1473,1474),(1476,1477),(1479,1479),(1524,1524),(1536,1541),(1552,1562),(1564,1564),(1600,1600),
   (1611,1631),(1648,1648),(1750,1757),(1759,1768),(1770,1773),(1807,1807),(1809,1809),(1840,1866),
   (1958,1968),(2027,2037),(2042,2042),(2045,2045),(2070,2093),(2137,2139),(2184,2184),(2192,2193),
   (2200,2207),(2249,2306),(2362,2362),(2364,2364),(2369,2376),(2381,2381),(2385,2391),(2402,2403),
   (2417,2417),(2433,2433),(2492,2492),(2497,2500),(2509,2509),(2530,2531),(2558,2558),(2561,2562),
   (2620,2620),(2625,2626),(2631,2632),(2635,2637),(2641,2641),(2672,2673),(2677,2677),(2689,2690),
   (2748,2748),(2753,2757),(2759,2760),(2765,2765),(2786,2787),(2810,2815),(2817,2817),(2876,2876),
   (2879,2879),(2881,2884),(2893,2893),(2901,2902),(2914,2915),(2946,2946),(3008,3008),(3021,3021),
   (3072,3072),(3076,3076),(3132,3132),(3134,3136),(3142,3144),(3146,3149),(3157,3158),(3170,3171),
   (3201,3201),(3260,3260),(3263,3263),(3270,3270),(3276,3277),(3298,3299),(3328,3329),(3387,3388),
   (3393,3396),(3405,3405),(3426,3427),(3457,3457),(3530,3530),(3538,3540),(3542,3542),(3633,3633),
   (3636,3642),(3654,3662),(3761,3761),(3764,3772),(3782,3782),(3784,3789),(3864,3865),(3893,3893),
   (3895,3895),(3897,3897),(3953,3966),(3968,3972),(3974,3975),(3981,3991),(3993,4028),(4038,4038),
   (4141,4144),(4146,4151),(4153,4154),(4157,4158),(4184,4185),(4190,4192),(4209,4212),(4226,4226),
   (4229,4230),(4237,4237),(4253,4253),(4348,4348),(4957,4959),(5906,5908),(5938,5939),(5970,5971),
   (6002,6003),(6068,6069),(6071,6077),(6086,6086),(6089,6099),(6103,6103),(6109,6109),(6155,6159),
   (6211,6211),(6277,6278),(6313,6313),(6432,6434),(6439,6440),(6450,6450),(6457,6459),(6679,6680),
   (6683,6683),(6742,6742),(6744,6750),(6752,6752),(6754,6754),(6757,6764),(6771,6780),(6783,6783),
   (6823,6823),(6832,6862),(6912,6915),(6964,6964),(6966,6970),(6972,6972),(6978,6978),(7019,7027),
   (7040,7041),(7074,7077),(7080,7081),(7083,7085),(7142,7142),(7144,7145),(7149,7149),(7151,7153),
   (7212,7219),(7222,7223),(7288,7293),(7376,7378),(7380,7392),(7394,7400),(7405,7405),(7412,7412),
   (7416,7417),(7468,7530),(7544,7544),(7579,7679),(8125,8125),(8127,8129),(8141,8143),(8157,8159),
   (8173,8175),(8189,8190),(8203,8207),(8216,8217),(8228,8228),(8231,8231),(8234,8238),(8288,8292),
   (8294,8303),(8305,8305),(8319,8319),(8336,8348),(8400,8432),(11388,11389),(11503,11505),(11631,11631),
   (11647,11647),(11744,11775),(11823,11823),(12293,12293),(12330,12333),(12337,12341),(12347,12347),
   (12441,12446),(12540,12542),(40981,40981),(42232,42237),(42508,42508),(42607,42610),(42612,42621),
   (42623,42623),(42652,42655),(42736,42737),(42752,42785),(42864,42864),(42888,42890),(42994,42996),
   (43000,43001),(43010,43010),(43014,43014),(43019,43019),(43045,43046),(43052,43052),(43204,43205),
   (43232,43249),(43263,43263),(43302,43309),(43335,43345),(43392,43394),(43443,43443),(43446,43449),
   (43452,43453),(43471,43471),(43493,43494),(43561,43566),(43569,43570),(43573,43574),(43587,43587),
   (43596,43596),(43632,43632),(43644,43644),(43696,43696),(43698,43700),(43703,43704),(43710,43711),
   (43713,43713),(43741,43741),(43756,43757),(43763,43764),(43766,43766),(43867,43871),(43881,43883),
   (44005,44005),(44008,44008),(44013,44013),(64286,64286),(64434,64450),(65024,65039),(65043,65043),
   (65056,65071),(65106,65106),(65109,65109),(65279,65279),(65287,65287),(65294,65294),(65306,65306),
   (65342,65342),(65344,65344),(65392,65392),(65438,65439),(65507,65507),(65529,65531),(66045,66045),
   (66272,66272),(66422,66426),(67456,67461),(67463,67504),(67506,67514),(68097,68099),(68101,68102),
   (68108,68111),(68152,68154),(68159,68159),(68325,68326),(68900,68903),(69291,69292),(69446,69456),
   (69506,69509),(69633,69633),(69688,69702),(69744,69744),(69747,69748),(69759,69761),(69811,69814),
   (69817,69818),(69821,69821),(69826,69826),(69837,69837),(69888,69890),(69927,69931),(69933,69940),
   (70003,70003),(70016,70017),(70070,70078),(70089,70092),(70095,70095),(70191,70193),(70196,70196),
   (70198,70199),(70206,70206),(70367,70367),(70371,70378),(70400,70401),(70459,70460),(70464,70464),
   (70502,70508),(70512,70516),(70712,70719),(70722,70724),(70726,70726),(70750,70750),(70835,70840),
   (70842,70842),(70847,70848),(70850,70851),(71090,71093),(71100,71101),(71103,71104),(71132,71133),
   (71219,71226),(71229,71229),(71231,71232),(71339,71339),(71341,71341),(71344,71349),(71351,71351),
   (71453,71455),(71458,71461),(71463,71467),(71727,71735),(71737,71738),(71995,71996),(71998,71998),
   (72003,72003),(72148,72151),(72154,72155),(72160,72160),(72193,72202),(72243,72248),(72251,72254),
   (72263,72263),(72273,72278),(72281,72283),(72330,72342),(72344,72345),(72752,72758),(72760,72765),
   (72767,72767),(72850,72871),(72874,72880),(72882,72883),(72885,72886),(73009,73014),(73018,73018),
   (73020,73021),(73023,73029),(73031,73031),(73104,73105),(73109,73109),(73111,73111),(73459,73460),
   (78896,78904),(92912,92916),(92976,92982),(92992,92995),(94031,94031),(94095,94111),(94176,94177),
   (94179,94180),(110576,110579),(110581,110587),(110589,110590),(113821,113822),(113824,113827),
   (118528,118573),(118576,118598),(119143,119145),(119155,119170),(119173,119179),(119210,119213),
   (119362,119364),(121344,121398),(121403,121452),(121461,121461),(121476,121476),(121499,121503),
   (121505,121519),(122880,122886),(122888,122904),(122907,122913),(122915,122916),(122918,122922),
   (123184,123197),(123566,123566),(123628,123631),(125136,125142),(125252,125259),(127995,127999),
   (917505,917505),(917536,917631),(917760,917999)]

/-- Whether the first character that is not ignored has case. -/
private def meetsLetter (cs : List Char) : Bool :=
  match cs.dropWhile caseIgnored.hold with
  | c :: _ => caseLetters.hold c
  | [] => false

/-- The small form of a character between those before it, the latest first, and those behind it. -/
private def small (before : List Char) (c : Char) (behind : List Char) : List Char :=
  match c.toNat with
  | 304 => ['i',Char.ofNat 775]
  | 931 => [if meetsLetter before && !meetsLetter behind then Char.ofNat 962 else Char.ofNat 963]
  | _ => [counterpart smallRuns c]

/-- The small forms of the characters behind the given ones, the latest of which comes first. -/
private def smallFrom : List Char → List Char → List Char
  | _, [] => []
  | before, c :: behind => small before c behind ++ smallFrom (c :: before) behind

def smalls (s : String) : String := String.ofList (smallFrom [] s.toList)

private def hiddenRanges : Ranges :=
  [(0,31),(127,160),(173,173),(888,889),(896,899),(907,907),(909,909),(930,930),(1328,1328),(1367,1368),
   (1419,1420),(1424,1424),(1480,1487),(1515,1518),(1525,1541),(1564,1564),(1757,1757),(1806,1807),
   (1867,1868),(1970,1983),(2043,2044),(2094,2095),(2111,2111),(2140,2141),(2143,2143),(2155,2159),
   (2191,2199),(2274,2274),(2436,2436),(2445,2446),(2449,2450),(2473,2473),(2481,2481),(2483,2485),
   (2490,2491),(2501,2502),(2505,2506),(2511,2518),(2520,2523),(2526,2526),(2532,2533),(2559,2560),
   (2564,2564),(2571,2574),(2577,2578),(2601,2601),(2609,2609),(2612,2612),(2615,2615),(2618,2619),
   (2621,2621),(2627,2630),(2633,2634),(2638,2640),(2642,2648),(2653,2653),(2655,2661),(2679,2688),
   (2692,2692),(2702,2702),(2706,2706),(2729,2729),(2737,2737),(2740,2740),(2746,2747),(2758,2758),
   (2762,2762),(2766,2767),(2769,2783),(2788,2789),(2802,2808),(2816,2816),(2820,2820),(2829,2830),
   (2833,2834),(2857,2857),(2865,2865),(2868,2868),(2874,2875),(2885,2886),(2889,2890),(2894,2900),
   (2904,2907),(2910,2910),(2916,2917),(2936,2945),(2948,2948),(2955,2957),(2961,2961),(2966,2968),
   (2971,2971),(2973,2973),(2976,2978),(2981,2983),(2987,2989),(3002,3005),(3011,3013),(3017,3017),
   (3022,3023),(3025,3030),(3032,3045),(3067,3071),(3085,3085),(3089,3089),(3113,3113),(3130,3131),
   (3141,3141),(3145,3145),(3150,3156),(3159,3159),(3163,3164),(3166,3167),(3172,3173),(3184,3190),
   (3213,3213),(3217,3217),(3241,3241),(3252,3252),(3258,3259),(3269,3269),(3273,3273),(3278,3284),
   (3287,3292),(3295,3295),(3300,3301),(3312,3312),(3315,3327),(3341,3341),(3345,3345),(3397,3397),
   (3401,3401),(3408,3411),(3428,3429),(3456,3456),(3460,3460),(3479,3481),(3506,3506),(3516,3516),
   (3518,3519),(3527,3529),(3531,3534),(3541,3541),(3543,3543),(3552,3557),(3568,3569),(3573,3584),
   (3643,3646),(3676,3712),(3715,3715),(3717,3717),(3723,3723),(3748,3748),(3750,3750),(3774,3775),
   (3781,3781),(3783,3783),(3790,3791),(3802,3803),(3808,3839),(3912,3912),(3949,3952),(3992,3992),
   (4029,4029),(4045,4045),(4059,4095),(4294,4294),(4296,4300),(4302,4303),(4681,4681),(4686,4687),
   (4695,4695),(4697,4697),(4702,4703),(4745,4745),(4750,4751),(4785,4785),(4790,4791),(4799,4799),
   (4801,4801),(4806,4807),(4823,4823),(4881,4881),(4886,4887),(4955,4956),(4989,4991),(5018,5023),
   (5110,5111),(5118,5119),(5760,5760),(5789,5791),(5881,5887),(5910,5918),(5943,5951),(5972,5983),
   (5997,5997),(6001,6001),(6004,6015),(6110,6111),(6122,6127),(6138,6143),(6158,6158),(6170,6175),
   (6265,6271),(6315,6319),(6390,6399),(6431,6431),(6444,6447),(6460,6463),(6465,6467),(6510,6511),
   (6517,6527),(6572,6575),(6602,6607),(6619,6621),(6684,6685),(6751,6751),(6781,6782),(6794,6799),
   (6810,6815),(6830,6831),(6863,6911),(6989,6991),(7039,7039),(7156,7163),(7224,7226),(7242,7244),
   (7305,7311),(7355,7356),(7368,7375),(7419,7423),(7958,7959),(7966,7967),(8006,8007),(8014,8015),
   (8024,8024),(8026,8026),(8028,8028),(8030,8030),(8062,8063),(8117,8117),(8133,8133),(8148,8149),
   (8156,8156),(8176,8177),(8181,8181),(8191,8207),(8232,8239),(8287,8303),(8306,8307),(8335,8335),
   (8349,8351),(8385,8399),(8433,8447),(8588,8591),(9255,9279),(9291,9311),(11124,11125),(11158,11158),
   (11508,11512),(11558,11558),(11560,11564),(11566,11567),(11624,11630),(11633,11646),(11671,11679),
   (11687,11687),(11695,11695),(11703,11703),(11711,11711),(11719,11719),(11727,11727),(11735,11735),
   (11743,11743),(11870,11903),(11930,11930),(12020,12031),(12246,12271),(12284,12288),(12352,12352),
   (12439,12440),(12544,12548),(12592,12592),(12687,12687),(12772,12783),(12831,12831),(42125,42127),
   (42183,42191),(42540,42559),(42744,42751),(42955,42959),(42962,42962),(42964,42964),(42970,42993),
   (43053,43055),(43066,43071),(43128,43135),(43206,43213),(43226,43231),(43348,43358),(43389,43391),
   (43470,43470),(43482,43485),(43519,43519),(43575,43583),(43598,43599),(43610,43611),(43715,43738),
   (43767,43776),(43783,43784),(43791,43792),(43799,43807),(43815,43815),(43823,43823),(43884,43887),
   (44014,44015),(44026,44031),(55204,55215),(55239,55242),(55292,55295),(57344,63743),(64110,64111),
   (64218,64255),(64263,64274),(64280,64284),(64311,64311),(64317,64317),(64319,64319),(64322,64322),
   (64325,64325),(64451,64466),(64912,64913),(64968,64974),(64976,65007),(65050,65055),(65107,65107),
   (65127,65127),(65132,65135),(65141,65141),(65277,65280),(65471,65473),(65480,65481),(65488,65489),
   (65496,65497),(65501,65503),(65511,65511),(65519,65531),(65534,65535),(65548,65548),(65575,65575),
   (65595,65595),(65598,65598),(65614,65615),(65630,65663),(65787,65791),(65795,65798),(65844,65846),
   (65935,65935),(65949,65951),(65953,65999),(66046,66175),(66205,66207),(66257,66271),(66300,66303),
   (66340,66348),(66379,66383),(66427,66431),(66462,66462),(66500,66503),(66518,66559),(66718,66719),
   (66730,66735),(66772,66775),(66812,66815),(66856,66863),(66916,66926),(66939,66939),(66955,66955),
   (66963,66963),(66966,66966),(66978,66978),(66994,66994),(67002,67002),(67005,67071),(67383,67391),
   (67414,67423),(67432,67455),(67462,67462),(67505,67505),(67515,67583),(67590,67591),(67593,67593),
   (67638,67638),(67641,67643),(67645,67646),(67670,67670),(67743,67750),(67760,67807),(67827,67827),
   (67830,67834),(67868,67870),(67898,67902),(67904,67967),(68024,68027),(68048,68049),(68100,68100),
   (68103,68107),(68116,68116),(68120,68120),(68150,68151),(68155,68158),(68169,68175),(68185,68191),
   (68256,68287),(68327,68330),(68343,68351),(68406,68408),(68438,68439),(68467,68471),(68498,68504),
   (68509,68520),(68528,68607),(68681,68735),(68787,68799),(68851,68857),(68904,68911),(68922,69215),
   (69247,69247),(69290,69290),(69294,69295),(69298,69375),(69416,69423),(69466,69487),(69514,69551),
   (69580,69599),(69623,69631),(69710,69713),(69750,69758),(69821,69821),(69827,69839),(69865,69871),
   (69882,69887),(69941,69941),(69960,69967),(70007,70015),(70112,70112),(70133,70143),(70162,70162),
   (70207,70271),(70279,70279),(70281,70281),(70286,70286),(70302,70302),(70314,70319),(70379,70383),
   (70394,70399),(70404,70404),(70413,70414),(70417,70418),(70441,70441),(70449,70449),(70452,70452),
   (70458,70458),(70469,70470),(70473,70474),(70478,70479),(70481,70486),(70488,70492),(70500,70501),
   (70509,70511),(70517,70655),(70748,70748),(70754,70783),(70856,70863),(70874,71039),(71094,71095),
   (71134,71167),(71237,71247),(71258,71263),(71277,71295),(71354,71359),(71370,71423),(71451,71452),
   (71468,71471),(71495,71679),(71740,71839),(71923,71934),(71943,71944),(71946,71947),(71956,71956),
   (71959,71959),(71990,71990),(71993,71994),(72007,72015),(72026,72095),(72104,72105),(72152,72153),
   (72165,72191),(72264,72271),(72355,72367),(72441,72703),(72713,72713),(72759,72759),(72774,72783),
   (72813,72815),(72848,72849),(72872,72872),(72887,72959),(72967,72967),(72970,72970),(73015,73017),
   (73019,73019),(73022,73022),(73032,73039),(73050,73055),(73062,73062),(73065,73065),(73103,73103),
   (73106,73106),(73113,73119),(73130,73439),(73465,73647),(73649,73663),(73714,73726),(74650,74751),
   (74863,74863),(74869,74879),(75076,77711),(77811,77823),(78895,82943),(83527,92159),(92729,92735),
   (92767,92767),(92778,92781),(92863,92863),(92874,92879),(92910,92911),(92918,92927),(92998,93007),
   (93018,93018),(93026,93026),(93048,93052),(93072,93759),(93851,93951),(94027,94030),(94088,94094),
   (94112,94175),(94181,94191),(94194,94207),(100344,100351),(101590,101631),(101641,110575),
   (110580,110580),(110588,110588),(110591,110591),(110883,110927),(110931,110947),(110952,110959),
   (111356,113663),(113771,113775),(113789,113791),(113801,113807),(113818,113819),(113824,118527),
   (118574,118575),(118599,118607),(118724,118783),(119030,119039),(119079,119080),(119155,119162),
   (119275,119295),(119366,119519),(119540,119551),(119639,119647),(119673,119807),(119893,119893),
   (119965,119965),(119968,119969),(119971,119972),(119975,119976),(119981,119981),(119994,119994),
   (119996,119996),(120004,120004),(120070,120070),(120075,120076),(120085,120085),(120093,120093),
   (120122,120122),(120127,120127),(120133,120133),(120135,120137),(120145,120145),(120486,120487),
   (120780,120781),(121484,121498),(121504,121504),(121520,122623),(122655,122879),(122887,122887),
   (122905,122906),(122914,122914),(122917,122917),(122923,123135),(123181,123183),(123198,123199),
   (123210,123213),(123216,123535),(123567,123583),(123642,123646),(123648,124895),(124903,124903),
   (124908,124908),(124911,124911),(124927,124927),(125125,125126),(125143,125183),(125260,125263),
   (125274,125277),(125280,126064),(126133,126208),(126270,126463),(126468,126468),(126496,126496),
   (126499,126499),(126501,126502),(126504,126504),(126515,126515),(126520,126520),(126522,126522),
   (126524,126529),(126531,126534),(126536,126536),(126538,126538),(126540,126540),(126544,126544),
   (126547,126547),(126549,126550),(126552,126552),(126554,126554),(126556,126556),(126558,126558),
   (126560,126560),(126563,126563),(126565,126566),(126571,126571),(126579,126579),(126584,126584),
   (126589,126589),(126591,126591),(126602,126602),(126620,126624),(126628,126628),(126634,126634),
   (126652,126703),(126706,126975),(127020,127023),(127124,127135),(127151,127152),(127168,127168),
   (127184,127184),(127222,127231),(127406,127461),(127491,127503),(127548,127551),(127561,127567),
   (127570,127583),(127590,127743),(128728,128732),(128749,128751),(128765,128767),(128884,128895),
   (128985,128991),(129004,129007),(129009,129023),(129036,129039),(129096,129103),(129114,129119),
   (129160,129167),(129198,129199),(129202,129279),(129620,129631),(129646,129647),(129653,129655),
   (129661,129663),(129671,129679),(129709,129711),(129723,129727),(129734,129743),(129754,129759),
   (129768,129775),(129783,129791),(129939,129939),(129995,130031),(130042,131071),(173792,173823),
   (177977,177983),(178206,178207),(183970,183983),(191457,194559),(195102,196607),(201547,917759),
   (918000,1114111)]

private def isShown (c : Char) : Bool := !hiddenRanges.hold c

private def openingRanges : Ranges :=
  [(65,90),(95,95),(97,122),(170,170),(181,181),(186,186),(192,214),(216,246),(248,705),(710,721),
   (736,740),(748,748),(750,750),(880,884),(886,887),(891,893),(895,895),(902,902),(904,906),(908,908),
   (910,929),(931,1013),(1015,1153),(1162,1327),(1329,1366),(1369,1369),(1376,1416),(1488,1514),
   (1519,1522),(1568,1610),(1646,1647),(1649,1747),(1749,1749),(1765,1766),(1774,1775),(1786,1788),
   (1791,1791),(1808,1808),(1810,1839),(1869,1957),(1969,1969),(1994,2026),(2036,2037),(2042,2042),
   (2048,2069),(2074,2074),(2084,2084),(2088,2088),(2112,2136),(2144,2154),(2160,2183),(2185,2190),
   (2208,2249),(2308,2361),(2365,2365),(2384,2384),(2392,2401),(2417,2432),(2437,2444),(2447,2448),
   (2451,2472),(2474,2480),(2482,2482),(2486,2489),(2493,2493),(2510,2510),(2524,2525),(2527,2529),
   (2544,2545),(2556,2556),(2565,2570),(2575,2576),(2579,2600),(2602,2608),(2610,2611),(2613,2614),
   (2616,2617),(2649,2652),(2654,2654),(2674,2676),(2693,2701),(2703,2705),(2707,2728),(2730,2736),
   (2738,2739),(2741,2745),(2749,2749),(2768,2768),(2784,2785),(2809,2809),(2821,2828),(2831,2832),
   (2835,2856),(2858,2864),(2866,2867),(2869,2873),(2877,2877),(2908,2909),(2911,2913),(2929,2929),
   (2947,2947),(2949,2954),(2958,2960),(2962,2965),(2969,2970),(2972,2972),(2974,2975),(2979,2980),
   (2984,2986),(2990,3001),(3024,3024),(3077,3084),(3086,3088),(3090,3112),(3114,3129),(3133,3133),
   (3160,3162),(3165,3165),(3168,3169),(3200,3200),(3205,3212),(3214,3216),(3218,3240),(3242,3251),
   (3253,3257),(3261,3261),(3293,3294),(3296,3297),(3313,3314),(3332,3340),(3342,3344),(3346,3386),
   (3389,3389),(3406,3406),(3412,3414),(3423,3425),(3450,3455),(3461,3478),(3482,3505),(3507,3515),
   (3517,3517),(3520,3526),(3585,3632),(3634,3634),(3648,3654),(3713,3714),(3716,3716),(3718,3722),
   (3724,3747),(3749,3749),(3751,3760),(3762,3762),(3773,3773),(3776,3780),(3782,3782),(3804,3807),
   (3840,3840),(3904,3911),(3913,3948),(3976,3980),(4096,4138),(4159,4159),(4176,4181),(4186,4189),
   (4193,4193),(4197,4198),(4206,4208),(4213,4225),(4238,4238),(4256,4293),(4295,4295),(4301,4301),
   (4304,4346),(4348,4680),(4682,4685),(4688,4694),(4696,4696),(4698,4701),(4704,4744),(4746,4749),
   (4752,4784),(4786,4789),(4792,4798),(4800,4800),(4802,4805),(4808,4822),(4824,4880),(4882,4885),
   (4888,4954),(4992,5007),(5024,5109),(5112,5117),(5121,5740),(5743,5759),(5761,5786),(5792,5866),
   (5870,5880),(5888,5905),(5919,5937),(5952,5969),(5984,5996),(5998,6000),(6016,6067),(6103,6103),
   (6108,6108),(6176,6264),(6272,6312),(6314,6314),(6320,6389),(6400,6430),(6480,6509),(6512,6516),
   (6528,6571),(6576,6601),(6656,6678),(6688,6740),(6823,6823),(6917,6963),(6981,6988),(7043,7072),
   (7086,7087),(7098,7141),(7168,7203),(7245,7247),(7258,7293),(7296,7304),(7312,7354),(7357,7359),
   (7401,7404),(7406,7411),(7413,7414),(7418,7418),(7424,7615),(7680,7957),(7960,7965),(7968,8005),
   (8008,8013),(8016,8023),(8025,8025),(8027,8027),(8029,8029),(8031,8061),(8064,8116),(8118,8124),
   (8126,8126),(8130,8132),(8134,8140),(8144,8147),(8150,8155),(8160,8172),(8178,8180),(8182,8188),
   (8305,8305),(8319,8319),(8336,8348),(8450,8450),(8455,8455),(8458,8467),(8469,8469),(8472,8477),
   (8484,8484),(8486,8486),(8488,8488),(8490,8505),(8508,8511),(8517,8521),(8526,8526),(8544,8584),
   (11264,11492),(11499,11502),(11506,11507),(11520,11557),(11559,11559),(11565,11565),(11568,11623),
   (11631,11631),(11648,11670),(11680,11686),(11688,11694),(11696,11702),(11704,11710),(11712,11718),
   (11720,11726),(11728,11734),(11736,11742),(12293,12295),(12321,12329),(12337,12341),(12344,12348),
   (12353,12438),(12445,12447),(12449,12538),(12540,12543),(12549,12591),(12593,12686),(12704,12735),
   (12784,12799),(13312,19903),(19968,42124),(42192,42237),(42240,42508),(42512,42527),(42538,42539),
   (42560,42606),(42623,42653),(42656,42735),(42775,42783),(42786,42888),(42891,42954),(42960,42961),
   (42963,42963),(42965,42969),(42994,43009),(43011,43013),(43015,43018),(43020,43042),(43072,43123),
   (43138,43187),(43250,43255),(43259,43259),(43261,43262),(43274,43301),(43312,43334),(43360,43388),
   (43396,43442),(43471,43471),(43488,43492),(43494,43503),(43514,43518),(43520,43560),(43584,43586),
   (43588,43595),(43616,43638),(43642,43642),(43646,43695),(43697,43697),(43701,43702),(43705,43709),
   (43712,43712),(43714,43714),(43739,43741),(43744,43754),(43762,43764),(43777,43782),(43785,43790),
   (43793,43798),(43808,43814),(43816,43822),(43824,43866),(43868,43881),(43888,44002),(44032,55203),
   (55216,55238),(55243,55291),(63744,64109),(64112,64217),(64256,64262),(64275,64279),(64285,64285),
   (64287,64296),(64298,64310),(64312,64316),(64318,64318),(64320,64321),(64323,64324),(64326,64433),
   (64467,64605),(64612,64829),(64848,64911),(64914,64967),(65008,65017),(65137,65137),(65139,65139),
   (65143,65143),(65145,65145),(65147,65147),(65149,65149),(65151,65276),(65313,65338),(65345,65370),
   (65382,65437),(65440,65470),(65474,65479),(65482,65487),(65490,65495),(65498,65500),(65536,65547),
   (65549,65574),(65576,65594),(65596,65597),(65599,65613),(65616,65629),(65664,65786),(65856,65908),
   (66176,66204),(66208,66256),(66304,66335),(66349,66378),(66384,66421),(66432,66461),(66464,66499),
   (66504,66511),(66513,66517),(66560,66717),(66736,66771),(66776,66811),(66816,66855),(66864,66915),
   (66928,66938),(66940,66954),(66956,66962),(66964,66965),(66967,66977),(66979,66993),(66995,67001),
   (67003,67004),(67072,67382),(67392,67413),(67424,67431),(67456,67461),(67463,67504),(67506,67514),
   (67584,67589),(67592,67592),(67594,67637),(67639,67640),(67644,67644),(67647,67669),(67680,67702),
   (67712,67742),(67808,67826),(67828,67829),(67840,67861),(67872,67897),(67968,68023),(68030,68031),
   (68096,68096),(68112,68115),(68117,68119),(68121,68149),(68192,68220),(68224,68252),(68288,68295),
   (68297,68324),(68352,68405),(68416,68437),(68448,68466),(68480,68497),(68608,68680),(68736,68786),
   (68800,68850),(68864,68899),(69248,69289),(69296,69297),(69376,69404),(69415,69415),(69424,69445),
   (69488,69505),(69552,69572),(69600,69622),(69635,69687),(69745,69746),(69749,69749),(69763,69807),
   (69840,69864),(69891,69926),(69956,69956),(69959,69959),(69968,70002),(70006,70006),(70019,70066),
   (70081,70084),(70106,70106),(70108,70108),(70144,70161),(70163,70187),(70272,70278),(70280,70280),
   (70282,70285),(70287,70301),(70303,70312),(70320,70366),(70405,70412),(70415,70416),(70419,70440),
   (70442,70448),(70450,70451),(70453,70457),(70461,70461),(70480,70480),(70493,70497),(70656,70708),
   (70727,70730),(70751,70753),(70784,70831),(70852,70853),(70855,70855),(71040,71086),(71128,71131),
   (71168,71215),(71236,71236),(71296,71338),(71352,71352),(71424,71450),(71488,71494),(71680,71723),
   (71840,71903),(71935,71942),(71945,71945),(71948,71955),(71957,71958),(71960,71983),(71999,71999),
   (72001,72001),(72096,72103),(72106,72144),(72161,72161),(72163,72163),(72192,72192),(72203,72242),
   (72250,72250),(72272,72272),(72284,72329),(72349,72349),(72368,72440),(72704,72712),(72714,72750),
   (72768,72768),(72818,72847),(72960,72966),(72968,72969),(72971,73008),(73030,73030),(73056,73061),
   (73063,73064),(73066,73097),(73112,73112),(73440,73458),(73648,73648),(73728,74649),(74752,74862),
   (74880,75075),(77712,77808),(77824,78894),(82944,83526),(92160,92728),(92736,92766),(92784,92862),
   (92880,92909),(92928,92975),(92992,92995),(93027,93047),(93053,93071),(93760,93823),(93952,94026),
   (94032,94032),(94099,94111),(94176,94177),(94179,94179),(94208,100343),(100352,101589),(101632,101640),
   (110576,110579),(110581,110587),(110589,110590),(110592,110882),(110928,110930),(110948,110951),
   (110960,111355),(113664,113770),(113776,113788),(113792,113800),(113808,113817),(119808,119892),
   (119894,119964),(119966,119967),(119970,119970),(119973,119974),(119977,119980),(119982,119993),
   (119995,119995),(119997,120003),(120005,120069),(120071,120074),(120077,120084),(120086,120092),
   (120094,120121),(120123,120126),(120128,120132),(120134,120134),(120138,120144),(120146,120485),
   (120488,120512),(120514,120538),(120540,120570),(120572,120596),(120598,120628),(120630,120654),
   (120656,120686),(120688,120712),(120714,120744),(120746,120770),(120772,120779),(122624,122654),
   (123136,123180),(123191,123197),(123214,123214),(123536,123565),(123584,123627),(124896,124902),
   (124904,124907),(124909,124910),(124912,124926),(124928,125124),(125184,125251),(125259,125259),
   (126464,126467),(126469,126495),(126497,126498),(126500,126500),(126503,126503),(126505,126514),
   (126516,126519),(126521,126521),(126523,126523),(126530,126530),(126535,126535),(126537,126537),
   (126539,126539),(126541,126543),(126545,126546),(126548,126548),(126551,126551),(126553,126553),
   (126555,126555),(126557,126557),(126559,126559),(126561,126562),(126564,126564),(126567,126570),
   (126572,126578),(126580,126583),(126585,126588),(126590,126590),(126592,126601),(126603,126619),
   (126625,126627),(126629,126633),(126635,126651),(131072,173791),(173824,177976),(177984,178205),
   (178208,183969),(183984,191456),(194560,195101),(196608,201546)]

/-- The characters that cannot open a word but can follow in it. -/
private def followingRanges : Ranges :=
  [(48,57),(183,183),(768,879),(903,903),(1155,1159),(1425,1469),(1471,1471),(1473,1474),(1476,1477),
   (1479,1479),(1552,1562),(1611,1641),(1648,1648),(1750,1756),(1759,1764),(1767,1768),(1770,1773),
   (1776,1785),(1809,1809),(1840,1866),(1958,1968),(1984,1993),(2027,2035),(2045,2045),(2070,2073),
   (2075,2083),(2085,2087),(2089,2093),(2137,2139),(2200,2207),(2250,2273),(2275,2307),(2362,2364),
   (2366,2383),(2385,2391),(2402,2403),(2406,2415),(2433,2435),(2492,2492),(2494,2500),(2503,2504),
   (2507,2509),(2519,2519),(2530,2531),(2534,2543),(2558,2558),(2561,2563),(2620,2620),(2622,2626),
   (2631,2632),(2635,2637),(2641,2641),(2662,2673),(2677,2677),(2689,2691),(2748,2748),(2750,2757),
   (2759,2761),(2763,2765),(2786,2787),(2790,2799),(2810,2815),(2817,2819),(2876,2876),(2878,2884),
   (2887,2888),(2891,2893),(2901,2903),(2914,2915),(2918,2927),(2946,2946),(3006,3010),(3014,3016),
   (3018,3021),(3031,3031),(3046,3055),(3072,3076),(3132,3132),(3134,3140),(3142,3144),(3146,3149),
   (3157,3158),(3170,3171),(3174,3183),(3201,3203),(3260,3260),(3262,3268),(3270,3272),(3274,3277),
   (3285,3286),(3298,3299),(3302,3311),(3328,3331),(3387,3388),(3390,3396),(3398,3400),(3402,3405),
   (3415,3415),(3426,3427),(3430,3439),(3457,3459),(3530,3530),(3535,3540),(3542,3542),(3544,3551),
   (3558,3567),(3570,3571),(3633,3633),(3635,3642),(3655,3662),(3664,3673),(3761,3761),(3763,3772),
   (3784,3789),(3792,3801),(3864,3865),(3872,3881),(3893,3893),(3895,3895),(3897,3897),(3902,3903),
   (3953,3972),(3974,3975),(3981,3991),(3993,4028),(4038,4038),(4139,4158),(4160,4169),(4182,4185),
   (4190,4192),(4194,4196),(4199,4205),(4209,4212),(4226,4237),(4239,4253),(4957,4959),(4969,4977),
   (5906,5909),(5938,5940),(5970,5971),(6002,6003),(6068,6099),(6109,6109),(6112,6121),(6155,6157),
   (6159,6169),(6313,6313),(6432,6443),(6448,6459),(6470,6479),(6608,6618),(6679,6683),(6741,6750),
   (6752,6780),(6783,6793),(6800,6809),(6832,6845),(6847,6862),(6912,6916),(6964,6980),(6992,7001),
   (7019,7027),(7040,7042),(7073,7085),(7088,7097),(7142,7155),(7204,7223),(7232,7241),(7248,7257),
   (7376,7378),(7380,7400),(7405,7405),(7412,7412),(7415,7417),(7616,7679),(8255,8256),(8276,8276),
   (8400,8412),(8417,8417),(8421,8432),(11503,11505),(11647,11647),(11744,11775),(12330,12335),
   (12441,12442),(42528,42537),(42607,42607),(42612,42621),(42654,42655),(42736,42737),(43010,43010),
   (43014,43014),(43019,43019),(43043,43047),(43052,43052),(43136,43137),(43188,43205),(43216,43225),
   (43232,43249),(43263,43273),(43302,43309),(43335,43347),(43392,43395),(43443,43456),(43472,43481),
   (43493,43493),(43504,43513),(43561,43574),(43587,43587),(43596,43597),(43600,43609),(43643,43645),
   (43696,43696),(43698,43700),(43703,43704),(43710,43711),(43713,43713),(43755,43759),(43765,43766),
   (44003,44010),(44012,44013),(44016,44025),(64286,64286),(65024,65039),(65056,65071),(65075,65076),
   (65101,65103),(65296,65305),(65343,65343),(65438,65439),(66045,66045),(66272,66272),(66422,66426),
   (66720,66729),(68097,68099),(68101,68102),(68108,68111),(68152,68154),(68159,68159),(68325,68326),
   (68900,68903),(68912,68921),(69291,69292),(69446,69456),(69506,69509),(69632,69634),(69688,69702),
   (69734,69744),(69747,69748),(69759,69762),(69808,69818),(69826,69826),(69872,69881),(69888,69890),
   (69927,69940),(69942,69951),(69957,69958),(70003,70003),(70016,70018),(70067,70080),(70089,70092),
   (70094,70105),(70188,70199),(70206,70206),(70367,70378),(70384,70393),(70400,70403),(70459,70460),
   (70462,70468),(70471,70472),(70475,70477),(70487,70487),(70498,70499),(70502,70508),(70512,70516),
   (70709,70726),(70736,70745),(70750,70750),(70832,70851),(70864,70873),(71087,71093),(71096,71104),
   (71132,71133),(71216,71232),(71248,71257),(71339,71351),(71360,71369),(71453,71467),(71472,71481),
   (71724,71738),(71904,71913),(71984,71989),(71991,71992),(71995,71998),(72000,72000),(72002,72003),
   (72016,72025),(72145,72151),(72154,72160),(72164,72164),(72193,72202),(72243,72249),(72251,72254),
   (72263,72263),(72273,72283),(72330,72345),(72751,72758),(72760,72767),(72784,72793),(72850,72871),
   (72873,72886),(73009,73014),(73018,73018),(73020,73021),(73023,73029),(73031,73031),(73040,73049),
   (73098,73102),(73104,73105),(73107,73111),(73120,73129),(73459,73462),(92768,92777),(92864,92873),
   (92912,92916),(92976,92982),(93008,93017),(94031,94031),(94033,94087),(94095,94098),(94180,94180),
   (94192,94193),(113821,113822),(118528,118573),(118576,118598),(119141,119145),(119149,119154),
   (119163,119170),(119173,119179),(119210,119213),(119362,119364),(120782,120831),(121344,121398),
   (121403,121452),(121461,121461),(121476,121476),(121499,121503),(121505,121519),(122880,122886),
   (122888,122904),(122907,122913),(122915,122916),(122918,122922),(123184,123190),(123200,123209),
   (123566,123566),(123628,123641),(125136,125142),(125252,125258),(125264,125273),(130032,130041),
   (917760,917999)]

private def opensWord (c : Char) : Bool := openingRanges.hold c

private def followsInWord (c : Char) : Bool := opensWord c || followingRanges.hold c

def isWord : List Char → Bool
  | [] => false
  | c :: rest => opensWord c && rest.all followsInWord

def apostrophe : Char := Char.ofNat 39

/-- The character that encloses a text. -/
private def enclosing (cs : List Char) : Char := if cs.contains apostrophe && !cs.contains '"' then '"' else apostrophe

/-- The escape of a code, with the fewest of two, four and eight digits that hold it. -/
private def codeEscape (n : Nat) : List Char :=
  if n < 0x100 then '\\' :: 'x' :: hexDigits 2 n
  else if n < 0x10000 then '\\' :: 'u' :: hexDigits 4 n
  else '\\' :: 'U' :: hexDigits 8 n

/-- A code inside of quotes. -/
private def escape (quote : Char) (code : Nat) : List Char :=
  let c := Char.ofNat code
  if isHalf code then codeEscape code
  else if c = quote ∨ c = '\\' then ['\\',c]
  else if c = '\n' then ['\\','n']
  else if c = '\r' then ['\\','r']
  else if c = '\t' then ['\\','t']
  else if isShown c then [c]
  else codeEscape code

def quoted (s : String) : String :=
  let quote := enclosing s.toList
  String.ofList (quote :: ((codes s).flatMap (escape quote) ++ [quote]))

end Fuzzing.Text
