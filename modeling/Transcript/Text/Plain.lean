import Transcript.Text.Search

/-!
# Plain characters

Text made of ASCII characters only. Letters and digits lose their marks and their unusual shapes,
those that are drawn together come apart, and what has no plain form is left out.
-/

namespace Transcript

namespace Text

/-- Plain characters, each with the characters that are it in another shape or with marks. -/
def plainForms : List (Char × String) := [
  (' ', "\u00a0¨¯´¸˘˙˚˛˜˝ͺ΄΅᾽᾿῀῁῍῎῏῝῞῟῭΅´῾\u2000\u2001\u2002\u2003\u2004\u2005\u2006\u2007"),
  (' ', "\u2008\u2009\u200a‗\u202f‾\u205f\u3000゛゜\ufc5e\ufc5f\ufc60\ufc61\ufc62\ufc63\ufdfb﹉﹊"),
  (' ', "﹋﹌\ufe70\ufe72\ufe74\ufe76\ufe78\ufe7a\ufe7c\ufe7e￣"),
  ('-', "﹣－"),
  ('0', "⁰₀⓪㍘０𝟎𝟘𝟢𝟬𝟶🄀🄁🯰"),
  ('1', "¹₁⅟①⑴⒈㋀㍙㏠１𝟏𝟙𝟣𝟭𝟷🄂🯱"),
  ('2', "²₂②⑵⒉㋁㍚㏡２𝟐𝟚𝟤𝟮𝟸🄃🯲"),
  ('3', "³₃③⑶⒊㋂㍛㏢３𝟑𝟛𝟥𝟯𝟹🄄🯳"),
  ('4', "⁴₄④⑷⒋㋃㍜㏣４𝟒𝟜𝟦𝟰𝟺🄅🯴"),
  ('5', "⁵₅⑤⑸⒌㋄㍝㏤５𝟓𝟝𝟧𝟱𝟻🄆🯵"),
  ('6', "⁶₆⑥⑹⒍㋅㍞㏥６𝟔𝟞𝟨𝟲𝟼🄇🯶"),
  ('7', "⁷₇⑦⑺⒎㋆㍟㏦７𝟕𝟟𝟩𝟳𝟽🄈🯷"),
  ('8', "⁸₈⑧⑻⒏㋇㍠㏧８𝟖𝟠𝟪𝟴𝟾🄉🯸"),
  ('9', "⁹₉⑨⑼⒐㋈㍡㏨９𝟗𝟡𝟫𝟵𝟿🄊🯹"),
  ('A', "ÀÁÂÃÄÅĀĂĄǍǞǠǺȀȂȦᴬḀẠẢẤẦẨẪẬẮẰẲẴẶÅⒶ㎂Ａ𝐀𝐴𝑨𝒜𝓐𝔄𝔸𝕬𝖠𝗔𝘈𝘼𝙰🄐🄰"),
  ('B', "ᴮḂḄḆℬⒷＢ𝐁𝐵𝑩𝓑𝔅𝔹𝕭𝖡𝗕𝘉𝘽𝙱🄑🄱"),
  ('C', "ÇĆĈĊČḈℂ℃ℭⅭⒸꟲＣ𝐂𝐶𝑪𝒞𝓒𝕮𝖢𝗖𝘊𝘾𝙲🄒🄫🄲"),
  ('D', "ĎᴰḊḌḎḐḒⅅⅮⒹＤ𝐃𝐷𝑫𝒟𝓓𝔇𝔻𝕯𝖣𝗗𝘋𝘿𝙳🄓🄳"),
  ('E', "ÈÉÊËĒĔĖĘĚȄȆȨᴱḔḖḘḚḜẸẺẼẾỀỂỄỆℰⒺＥ𝐄𝐸𝑬𝓔𝔈𝔼𝕰𝖤𝗘𝘌𝙀𝙴🄔🄴"),
  ('F', "Ḟ℉ℱⒻ㎌ꟳＦ𝐅𝐹𝑭𝓕𝔉𝔽𝕱𝖥𝗙𝘍𝙁𝙵🄕🄵"),
  ('G', "ĜĞĠĢǦǴᴳḠⒼＧ𝐆𝐺𝑮𝒢𝓖𝔊𝔾𝕲𝖦𝗚𝘎𝙂𝙶🄖🄶"),
  ('H', "ĤȞᴴḢḤḦḨḪℋℌℍⒽＨ𝐇𝐻𝑯𝓗𝕳𝖧𝗛𝘏𝙃𝙷🄗🄷"),
  ('I', "ÌÍÎÏĨĪĬĮİǏȈȊᴵḬḮỈỊℐℑⅠⒾＩ𝐈𝐼𝑰𝓘𝕀𝕴𝖨𝗜𝘐𝙄𝙸🄘🄸"),
  ('J', "ĴᴶⒿＪ𝐉𝐽𝑱𝒥𝓙𝔍𝕁𝕵𝖩𝗝𝘑𝙅𝙹🄙🄹"),
  ('K', "ĶǨᴷḰḲḴKⓀＫ𝐊𝐾𝑲𝒦𝓚𝔎𝕂𝕶𝖪𝗞𝘒𝙆𝙺🄚🄺"),
  ('L', "ĹĻĽĿᴸḶḸḺḼℒⅬⓁＬ𝐋𝐿𝑳𝓛𝔏𝕃𝕷𝖫𝗟𝘓𝙇𝙻🄛🄻"),
  ('M', "ᴹḾṀṂℳⅯⓂ㏁Ｍ𝐌𝑀𝑴𝓜𝔐𝕄𝕸𝖬𝗠𝘔𝙈𝙼🄜🄼"),
  ('N', "ÑŃŅŇǸᴺṄṆṈṊℕⓃＮ𝐍𝑁𝑵𝒩𝓝𝔑𝕹𝖭𝗡𝘕𝙉𝙽🄝🄽"),
  ('O', "ÒÓÔÕÖŌŎŐƠǑǪǬȌȎȪȬȮȰᴼṌṎṐṒỌỎỐỒỔỖỘỚỜỞỠỢⓄＯ𝐎𝑂𝑶𝒪𝓞𝔒𝕆𝕺𝖮𝗢𝘖𝙊𝙾🄞🄾"),
  ('P', "ᴾṔṖℙⓅＰ𝐏𝑃𝑷𝒫𝓟𝔓𝕻𝖯𝗣𝘗𝙋𝙿🄟🄿"),
  ('Q', "ℚⓆꟴＱ𝐐𝑄𝑸𝒬𝓠𝔔𝕼𝖰𝗤𝘘𝙌𝚀🄠🅀"),
  ('R', "ŔŖŘȐȒᴿṘṚṜṞℛℜℝⓇＲ𝐑𝑅𝑹𝓡𝕽𝖱𝗥𝘙𝙍𝚁🄡🄬🅁"),
  ('S', "ŚŜŞŠȘṠṢṤṦṨⓈＳ𝐒𝑆𝑺𝒮𝓢𝔖𝕊𝕾𝖲𝗦𝘚𝙎𝚂🄢🄪🅂"),
  ('T', "ŢŤȚᵀṪṬṮṰⓉＴ𝐓𝑇𝑻𝒯𝓣𝔗𝕋𝕿𝖳𝗧𝘛𝙏𝚃🄣🅃"),
  ('U', "ÙÚÛÜŨŪŬŮŰŲƯǓǕǗǙǛȔȖᵁṲṴṶṸṺỤỦỨỪỬỮỰⓊＵ𝐔𝑈𝑼𝒰𝓤𝔘𝕌𝖀𝖴𝗨𝘜𝙐𝚄🄤🅄"),
  ('V', "ṼṾⅤⓋⱽ㎶Ｖ𝐕𝑉𝑽𝒱𝓥𝔙𝕍𝖁𝖵𝗩𝘝𝙑𝚅🄥🅅"),
  ('W', "ŴᵂẀẂẄẆẈⓌ㎼Ｗ𝐖𝑊𝑾𝒲𝓦𝔚𝕎𝖂𝖶𝗪𝘞𝙒𝚆🄦🅆"),
  ('X', "ẊẌⅩⓍＸ𝐗𝑋𝑿𝒳𝓧𝔛𝕏𝖃𝖷𝗫𝘟𝙓𝚇🄧🅇"),
  ('Y', "ÝŶŸȲẎỲỴỶỸⓎＹ𝐘𝑌𝒀𝒴𝓨𝔜𝕐𝖄𝖸𝗬𝘠𝙔𝚈🄨🅈"),
  ('Z', "ŹŻŽẐẒẔℤℨⓏＺ𝐙𝑍𝒁𝒵𝓩𝖅𝖹𝗭𝘡𝙕𝚉🄩🅉"),
  ('_', "︳︴﹍﹎﹏＿"),
  ('a', "ªàáâãäåāăąǎǟǡǻȁȃȧᵃḁẚạảấầẩẫậắằẳẵặₐ⒜ⓐａ𝐚𝑎𝒂𝒶𝓪𝔞𝕒𝖆𝖺𝗮𝘢𝙖𝚊"),
  ('b', "ᵇḃḅḇ⒝ⓑｂ𝐛𝑏𝒃𝒷𝓫𝔟𝕓𝖇𝖻𝗯𝘣𝙗𝚋"),
  ('c', "çćĉċčᶜḉⅽ⒞ⓒｃ𝐜𝑐𝒄𝒸𝓬𝔠𝕔𝖈𝖼𝗰𝘤𝙘𝚌"),
  ('d', "ďᵈḋḍḏḑḓⅆⅾ⒟ⓓｄ𝐝𝑑𝒅𝒹𝓭𝔡𝕕𝖉𝖽𝗱𝘥𝙙𝚍"),
  ('e', "èéêëēĕėęěȅȇȩᵉḕḗḙḛḝẹẻẽếềểễệₑℯⅇ⒠ⓔｅ𝐞𝑒𝒆𝓮𝔢𝕖𝖊𝖾𝗲𝘦𝙚𝚎"),
  ('f', "ᶠḟ⒡ⓕｆ𝐟𝑓𝒇𝒻𝓯𝔣𝕗𝖋𝖿𝗳𝘧𝙛𝚏"),
  ('g', "ĝğġģǧǵᵍḡℊ⒢ⓖ㎍ｇ𝐠𝑔𝒈𝓰𝔤𝕘𝖌𝗀𝗴𝘨𝙜𝚐"),
  ('h', "ĥȟʰḣḥḧḩḫẖₕℎ⒣ⓗｈ𝐡𝒉𝒽𝓱𝔥𝕙𝖍𝗁𝗵𝘩𝙝𝚑"),
  ('i', "ìíîïĩīĭįǐȉȋᵢḭḯỉịⁱℹⅈⅰ⒤ⓘｉ𝐢𝑖𝒊𝒾𝓲𝔦𝕚𝖎𝗂𝗶𝘪𝙞𝚒"),
  ('j', "ĵǰʲⅉ⒥ⓙⱼｊ𝐣𝑗𝒋𝒿𝓳𝔧𝕛𝖏𝗃𝗷𝘫𝙟𝚓"),
  ('k', "ķǩᵏḱḳḵₖ⒦ⓚ㏀ｋ𝐤𝑘𝒌𝓀𝓴𝔨𝕜𝖐𝗄𝗸𝘬𝙠𝚔"),
  ('l', "ĺļľŀˡḷḹḻḽₗℓⅼ⒧ⓛ㎕ｌ𝐥𝑙𝒍𝓁𝓵𝔩𝕝𝖑𝗅𝗹𝘭𝙡𝚕"),
  ('m', "ᵐḿṁṃₘⅿ⒨ⓜ㎛ｍ𝐦𝑚𝒎𝓂𝓶𝔪𝕞𝖒𝗆𝗺𝘮𝙢𝚖"),
  ('n', "ñńņňŉǹṅṇṉṋⁿₙ⒩ⓝｎ𝐧𝑛𝒏𝓃𝓷𝔫𝕟𝖓𝗇𝗻𝘯𝙣𝚗"),
  ('o', "ºòóôõöōŏőơǒǫǭȍȏȫȭȯȱᵒṍṏṑṓọỏốồổỗộớờởỡợₒℴ⒪ⓞｏ𝐨𝑜𝒐𝓸𝔬𝕠𝖔𝗈𝗼𝘰𝙤𝚘"),
  ('p', "ᵖṕṗₚ⒫ⓟｐ𝐩𝑝𝒑𝓅𝓹𝔭𝕡𝖕𝗉𝗽𝘱𝙥𝚙"),
  ('q', "⒬ⓠｑ𐞥𝐪𝑞𝒒𝓆𝓺𝔮𝕢𝖖𝗊𝗾𝘲𝙦𝚚"),
  ('r', "ŕŗřȑȓʳᵣṙṛṝṟ⒭ⓡｒ𝐫𝑟𝒓𝓇𝓻𝔯𝕣𝖗𝗋𝗿𝘳𝙧𝚛"),
  ('s', "śŝşšſșˢṡṣṥṧṩẛₛ⒮ⓢ㎲ｓ𝐬𝑠𝒔𝓈𝓼𝔰𝕤𝖘𝗌𝘀𝘴𝙨𝚜"),
  ('t', "ţťțᵗṫṭṯṱẗₜ⒯ⓣｔ𝐭𝑡𝒕𝓉𝓽𝔱𝕥𝖙𝗍𝘁𝘵𝙩𝚝"),
  ('u', "ùúûüũūŭůűųưǔǖǘǚǜȕȗᵘᵤṳṵṷṹṻụủứừửữự⒰ⓤｕ𝐮𝑢𝒖𝓊𝓾𝔲𝕦𝖚𝗎𝘂𝘶𝙪𝚞"),
  ('v', "ᵛᵥṽṿⅴ⒱ⓥｖ𝐯𝑣𝒗𝓋𝓿𝔳𝕧𝖛𝗏𝘃𝘷𝙫𝚟"),
  ('w', "ŵʷẁẃẅẇẉẘ⒲ⓦｗ𝐰𝑤𝒘𝓌𝔀𝔴𝕨𝖜𝗐𝘄𝘸𝙬𝚠"),
  ('x', "ˣẋẍₓⅹ⒳ⓧｘ𝐱𝑥𝒙𝓍𝔁𝔵𝕩𝖝𝗑𝘅𝘹𝙭𝚡"),
  ('y', "ýÿŷȳʸẏẙỳỵỷỹ⒴ⓨｙ𝐲𝑦𝒚𝓎𝔂𝔶𝕪𝖞𝗒𝘆𝘺𝙮𝚢"),
  ('z', "źżžᶻẑẓẕ⒵ⓩｚ𝐳𝑧𝒛𝓏𝔃𝔷𝕫𝖟𝗓𝘇𝘻𝙯𝚣")]

/-- Words of plain characters, each with the characters that stand for the whole word. -/
def plainWords : List (String × String) := [
  ("   ", "\ufdfa"), ("03", "↉"), ("10", "⑩⑽⒑㋉㍢㏩"), ("11", "⑪⑾⒒㋊㍣㏪"), ("110", "⅒"),
  ("12", "½⑫⑿⒓㋋㍤㏫"), ("13", "⅓⑬⒀⒔㍥㏬"), ("14", "¼⑭⒁⒕㍦㏭"), ("15", "⅕⑮⒂⒖㍧㏮"), ("16", "⅙⑯⒃⒗㍨㏯"),
  ("17", "⅐⑰⒄⒘㍩㏰"), ("18", "⅛⑱⒅⒙㍪㏱"), ("19", "⅑⑲⒆⒚㍫㏲"), ("20", "⑳⒇⒛㍬㏳"), ("21", "㉑㍭㏴"),
  ("22", "㉒㍮㏵"), ("23", "⅔㉓㍯㏶"), ("24", "㉔㍰㏷"), ("25", "⅖㉕㏸"), ("26", "㉖㏹"), ("27", "㉗㏺"),
  ("28", "㉘㏻"), ("29", "㉙㏼"), ("30", "㉚㏽"), ("31", "㉛㏾"), ("32", "㉜"), ("33", "㉝"), ("34", "¾㉞"),
  ("35", "⅗㉟"), ("36", "㊱"), ("37", "㊲"), ("38", "⅜㊳"), ("39", "㊴"), ("40", "㊵"), ("41", "㊶"),
  ("42", "㊷"), ("43", "㊸"), ("44", "㊹"), ("45", "⅘㊺"), ("46", "㊻"), ("47", "㊼"), ("48", "㊽"),
  ("49", "㊾"), ("50", "㊿"), ("56", "⅚"), ("58", "⅝"), ("78", "⅞"), ("AU", "㍳"), ("Am", "㏟"),
  ("Bq", "㏃"), ("CD", "🄭"), ("Ckg", "㏆"), ("Co", "㏇"), ("DJ", "🆐"), ("DZ", "ǄǱ"), ("Dz", "ǅǲ"),
  ("FAX", "℻"), ("GB", "㎇"), ("GHz", "㎓"), ("GPa", "㎬"), ("Gy", "㏉"), ("HP", "㏋"), ("HV", "🅊"),
  ("Hg", "㋌"), ("Hz", "㎐"), ("II", "Ⅱ"), ("III", "Ⅲ"), ("IJ", "Ĳ"), ("IU", "㍺"), ("IV", "Ⅳ"),
  ("IX", "Ⅸ"), ("KB", "㎅"), ("KK", "㏍"), ("KM", "㏎"), ("LJ", "Ǉ"), ("LTD", "㋏"), ("Lj", "ǈ"),
  ("MB", "㎆"), ("MC", "🅪"), ("MD", "🅫"), ("MHz", "㎒"), ("MPa", "㎫"), ("MR", "🅬"), ("MV", "㎹🅋"),
  ("MW", "㎿"), ("NJ", "Ǌ"), ("Nj", "ǋ"), ("No", "№"), ("PH", "㏗"), ("PPM", "㏙"), ("PPV", "🅎"),
  ("PR", "㏚"), ("PTE", "㉐"), ("Pa", "㎩"), ("Rs", "₨"), ("SD", "🅌"), ("SM", "℠"), ("SS", "🅍"),
  ("Sv", "㏜"), ("TEL", "℡"), ("THz", "㎔"), ("TM", "™"), ("VI", "Ⅵ"), ("VII", "Ⅶ"), ("VIII", "Ⅷ"),
  ("Vm", "㏞"), ("WC", "🅏"), ("WZ", "🄮"), ("Wb", "㏝"), ("XI", "Ⅺ"), ("XII", "Ⅻ"), ("ac", "℀"),
  ("am", "㏂"), ("as", "℁"), ("bar", "㍴"), ("cal", "㎈"), ("cc", "㏄"), ("cd", "㏅"), ("cm", "㎝"),
  ("cm2", "㎠"), ("cm3", "㎤"), ("co", "℅"), ("cu", "℆"), ("dB", "㏈"), ("da", "㍲"), ("dl", "㎗"),
  ("dm", "㍷"), ("dm2", "㍸"), ("dm3", "㍹"), ("dz", "ǆǳ"), ("eV", "㋎"), ("erg", "㋍"), ("ff", "ﬀ"),
  ("ffi", "ﬃ"), ("ffl", "ﬄ"), ("fi", "ﬁ"), ("fl", "ﬂ"), ("fm", "㎙"), ("gal", "㏿"), ("hPa", "㍱"),
  ("ha", "㏊"), ("ii", "ⅱ"), ("iii", "ⅲ"), ("ij", "ĳ"), ("in", "㏌"), ("iv", "ⅳ"), ("ix", "ⅸ"),
  ("kA", "㎄"), ("kHz", "㎑"), ("kPa", "㎪"), ("kV", "㎸"), ("kW", "㎾"), ("kcal", "㎉"), ("kg", "㎏"),
  ("kl", "㎘"), ("km", "㎞"), ("km2", "㎢"), ("km3", "㎦"), ("kt", "㏏"), ("lj", "ǉ"), ("lm", "㏐"),
  ("ln", "㏑"), ("log", "㏒"), ("lx", "㏓"), ("m2", "㎡"), ("m3", "㎥"), ("mA", "㎃"), ("mV", "㎷"),
  ("mW", "㎽"), ("mb", "㏔"), ("mg", "㎎"), ("mil", "㏕"), ("ml", "㎖"), ("mm", "㎜"), ("mm2", "㎟"),
  ("mm3", "㎣"), ("mol", "㏖"), ("ms", "㎧㎳"), ("ms2", "㎨"), ("nA", "㎁"), ("nF", "㎋"), ("nV", "㎵"),
  ("nW", "㎻"), ("nj", "ǌ"), ("nm", "㎚"), ("ns", "㎱"), ("oV", "㍵"), ("pA", "㎀"), ("pF", "㎊"),
  ("pV", "㎴"), ("pW", "㎺"), ("pc", "㍶"), ("pm", "㏘"), ("ps", "㎰"), ("rad", "㎭"), ("rads", "㎮"),
  ("rads2", "㎯"), ("sr", "㏛"), ("st", "ﬅﬆ"), ("vi", "ⅵ"), ("vii", "ⅶ"), ("viii", "ⅷ"),
  ("xi", "ⅺ"), ("xii", "ⅻ")]

end Text

namespace Chars

open Transcript.Text (plainForms plainWords)

/-- The plain form of a character; empty if it has none. -/
def plainForm (c : Char) : List Char :=
  if c.toNat < 128 then [c]
  else
    match plainForms.find? fun (_, shapes) => shapes.toList.contains c with
    | some (plain, _) => [plain]
    | none =>
      match plainWords.find? fun (_, shapes) => shapes.toList.contains c with
      | some (word, _) => word.toList
      | none => []

/-- The plain form of a text. -/
def plain (s : List Char) : List Char := s.flatMap plainForm

end Chars

end Transcript
