import Quire.Text.CodePage

/-! The code pages that text may be kept in, each with its names. -/

namespace Quire.CodePage

/-- Pages of the standards, for one group of languages each. -/
def standardPages : List CodePage := [
  { names := ["hp_roman8", "roman8", "r8", "cp1051", "ibm1051"]
    rows := ["", "", "\u00a0ÀÂÈÊËÎÏ´ˋˆ¨˜ÙÛ₤", "¯Ýý°ÇçÑñ¡¿¤£¥§ƒ¢", "âêôûáéóúàèòùäëöü",
      "ÅîØÆåíøæÄìÖÜÉïßÔ", "ÁÃãÐðÍÌÓÒÕõŠšÚŸÿ", "Þþ·µ¶¾—¼½ªº«■»±\ufffe"] },
  { names := ["iso8859_10", "csisolatin6", "iso_8859_10", "iso_8859_10_1992", "iso_ir_157", "l6",
      "latin6"]
    rows := ["", "", "\u00a0ĄĒĢĪĨĶ§ĻĐŠŦŽ\u00adŪŊ", "°ąēģīĩķ·ļđšŧž―ūŋ", "ĀÁÂÃÄÅÆĮČÉĘËĖÍÎÏ",
      "ÐŅŌÓÔÕÖŨØŲÚÛÜÝÞß", "āáâãäåæįčéęëėíîï", "ðņōóôõöũøųúûüýþĸ"] },
  { names := ["iso8859_11", "thai", "iso_8859_11", "iso_8859_11_2001"]
    rows := ["", "", "\u00a0กขฃคฅฆงจฉชซฌญฎฏ", "ฐฑฒณดตถทธนบปผฝพฟ", "ภมยรฤลฦวศษสหฬอฮฯ",
      "ะ\u0e31าำ\u0e34\u0e35\u0e36\u0e37\u0e38\u0e39\u0e3a\ufffe\ufffe\ufffe\ufffe฿",
      "เแโใไๅๆ\u0e47\u0e48\u0e49\u0e4a\u0e4b\u0e4c\u0e4d\u0e4e๏",
      "๐๑๒๓๔๕๖๗๘๙๚๛\ufffe\ufffe\ufffe\ufffe"] },
  { names := ["iso8859_13", "iso_8859_13", "l7", "latin7"]
    rows := ["", "", "\u00a0”¢£¤„¦§Ø©Ŗ«¬\u00ad®Æ", "°±²³“µ¶·ø¹ŗ»¼½¾æ", "ĄĮĀĆÄÅĘĒČÉŹĖĢĶĪĻ",
      "ŠŃŅÓŌÕÖ×ŲŁŚŪÜŻŽß", "ąįāćäåęēčéźėģķīļ", "šńņóōõö÷ųłśūüżž’"] },
  { names := ["iso8859_14", "iso_8859_14", "iso_8859_14_1998", "iso_celtic", "iso_ir_199", "l8",
      "latin8"]
    rows := ["", "", "\u00a0Ḃḃ£ĊċḊ§Ẁ©ẂḋỲ\u00ad®Ÿ", "ḞḟĠġṀṁ¶ṖẁṗẃṠỳẄẅṡ", "", "ŴÑÒÓÔÕÖṪØÙÚÛÜÝŶß", "",
      "ŵñòóôõöṫøùúûüýŷÿ"] },
  { names := ["iso8859_15", "iso_8859_15", "l9", "latin9"]
    rows := ["", "", "\u00a0¡¢£€¥Š§š©ª«¬\u00ad®¯", "°±²³Žµ¶·ž¹º»ŒœŸ¿", "", "", "", ""] },
  { names := ["iso8859_16", "iso_8859_16", "iso_8859_16_2001", "iso_ir_226", "l10", "latin10"]
    rows := ["", "", "\u00a0ĄąŁ€„Š§š©Ș«Ź\u00adźŻ", "°±ČłŽ”¶·žčș»ŒœŸż", "ÀÁÂĂÄĆÆÇÈÉÊËÌÍÎÏ",
      "ĐŃÒÓÔŐÖŚŰÙÚÛÜĘȚß", "àáâăäćæçèéêëìíîï", "đńòóôőöśűùúûüęțÿ"] },
  { names := ["iso8859_2", "csisolatin2", "iso_8859_2", "iso_8859_2_1987", "iso_ir_101", "l2",
      "latin2"]
    rows := ["", "", "\u00a0Ą˘Ł¤ĽŚ§¨ŠŞŤŹ\u00adŽŻ", "°ą˛ł´ľśˇ¸šşťź˝žż", "ŔÁÂĂÄĹĆÇČÉĘËĚÍÎĎ",
      "ĐŃŇÓÔŐÖ×ŘŮÚŰÜÝŢß", "ŕáâăäĺćçčéęëěíîď", "đńňóôőö÷řůúűüýţ˙"] },
  { names := ["iso8859_3", "csisolatin3", "iso_8859_3", "iso_8859_3_1988", "iso_ir_109", "l3",
      "latin3"]
    rows := ["", "", "\u00a0Ħ˘£¤\ufffeĤ§¨İŞĞĴ\u00ad\ufffeŻ", "°ħ²³´µĥ·¸ışğĵ½\ufffeż",
      "ÀÁÂ\ufffeÄĊĈÇÈÉÊËÌÍÎÏ", "\ufffeÑÒÓÔĠÖ×ĜÙÚÛÜŬŜß", "àáâ\ufffeäċĉçèéêëìíîï",
      "\ufffeñòóôġö÷ĝùúûüŭŝ˙"] },
  { names := ["iso8859_4", "csisolatin4", "iso_8859_4", "iso_8859_4_1988", "iso_ir_110", "l4",
      "latin4"]
    rows := ["", "", "\u00a0ĄĸŖ¤ĨĻ§¨ŠĒĢŦ\u00adŽ¯", "°ą˛ŗ´ĩļˇ¸šēģŧŊžŋ", "ĀÁÂÃÄÅÆĮČÉĘËĖÍÎĪ",
      "ĐŅŌĶÔÕÖ×ØŲÚÛÜŨŪß", "āáâãäåæįčéęëėíîī", "đņōķôõö÷øųúûüũū˙"] },
  { names := ["iso8859_5", "csisolatincyrillic", "cyrillic", "iso_8859_5", "iso_8859_5_1988",
      "iso_ir_144"]
    rows := ["", "", "\u00a0ЁЂЃЄЅІЇЈЉЊЋЌ\u00adЎЏ", "АБВГДЕЖЗИЙКЛМНОП", "РСТУФХЦЧШЩЪЫЬЭЮЯ",
      "абвгдежзийклмноп", "рстуфхцчшщъыьэюя", "№ёђѓєѕіїјљњћќ§ўџ"] },
  { names := ["iso8859_6", "arabic", "asmo_708", "csisolatinarabic", "ecma_114", "iso_8859_6",
      "iso_8859_6_1987", "iso_ir_127"]
    rows := ["", "",
      "\u00a0\ufffe\ufffe\ufffe¤\ufffe\ufffe\ufffe\ufffe\ufffe\ufffe\ufffe،\u00ad\ufffe\ufffe",
      "\ufffe\ufffe\ufffe\ufffe\ufffe\ufffe\ufffe\ufffe\ufffe\ufffe\ufffe\u061b\ufffe\ufffe\ufffe\u061f",
      "\ufffe\u0621\u0622\u0623\u0624\u0625\u0626\u0627\u0628\u0629\u062a\u062b\u062c\u062d\u062e\u062f",
      "\u0630\u0631\u0632\u0633\u0634\u0635\u0636\u0637\u0638\u0639\u063a\ufffe\ufffe\ufffe\ufffe\ufffe",
      "\u0640\u0641\u0642\u0643\u0644\u0645\u0646\u0647\u0648\u0649\u064a\u064b\u064c\u064d\u064e\u064f",
      "\u0650\u0651\u0652\ufffe\ufffe\ufffe\ufffe\ufffe\ufffe\ufffe\ufffe\ufffe\ufffe\ufffe\ufffe\ufffe"] },
  { names := ["iso8859_7", "csisolatingreek", "ecma_118", "elot_928", "greek", "greek8",
      "iso_8859_7", "iso_8859_7_1987", "iso_ir_126"]
    rows := ["", "", "\u00a0‘’£€₯¦§¨©ͺ«¬\u00ad\ufffe―", "°±²³΄΅Ά·ΈΉΊ»Ό½ΎΏ", "ΐΑΒΓΔΕΖΗΘΙΚΛΜΝΞΟ",
      "ΠΡ\ufffeΣΤΥΦΧΨΩΪΫάέήί", "ΰαβγδεζηθικλμνξο", "πρςστυφχψωϊϋόύώ\ufffe"] },
  { names := ["iso8859_8", "csisolatinhebrew", "hebrew", "iso_8859_8", "iso_8859_8_1988",
      "iso_ir_138"]
    rows := ["", "", "\u00a0\ufffe¢£¤¥¦§¨©×«¬\u00ad®¯", "°±²³´µ¶·¸¹÷»¼½¾\ufffe",
      "\ufffe\ufffe\ufffe\ufffe\ufffe\ufffe\ufffe\ufffe\ufffe\ufffe\ufffe\ufffe\ufffe\ufffe\ufffe\ufffe",
      "\ufffe\ufffe\ufffe\ufffe\ufffe\ufffe\ufffe\ufffe\ufffe\ufffe\ufffe\ufffe\ufffe\ufffe\ufffe‗",
      "\u05d0\u05d1\u05d2\u05d3\u05d4\u05d5\u05d6\u05d7\u05d8\u05d9\u05da\u05db\u05dc\u05dd\u05de\u05df",
      "\u05e0\u05e1\u05e2\u05e3\u05e4\u05e5\u05e6\u05e7\u05e8\u05e9\u05ea\ufffe\ufffe\u200e\u200f\ufffe"] },
  { names := ["iso8859_9", "csisolatin5", "iso_8859_9", "iso_8859_9_1989", "iso_ir_148", "l5",
      "latin5"]
    rows := ["", "", "", "", "", "ĞÑÒÓÔÕÖ×ØÙÚÛÜİŞß", "", "ğñòóôõö÷øùúûüışÿ"] },
  { names := ["koi8_r", "cskoi8r"]
    rows := ["─│┌┐└┘├┤┬┴┼▀▄█▌▐", "░▒▓⌠■∙√≈≤≥\u00a0⌡°²·÷", "═║╒ё╓╔╕╖╗╘╙╚╛╜╝╞", "╟╠╡Ё╢╣╤╥╦╧╨╩╪╫╬©",
      "юабцдефгхийклмно", "пярстужвьызшэщчъ", "ЮАБЦДЕФГХИЙКЛМНО", "ПЯРСТУЖВЬЫЗШЭЩЧЪ"] },
  { names := ["koi8_t"]
    rows := ["қғ‚Ғ„…†‡\ufffe‰ҳ‹ҲҷҶ\ufffe", "Қ‘’“”•–—\ufffe™\ufffe›\ufffe\ufffe\ufffe\ufffe",
      "\ufffeӯӮё¤ӣ¦§\ufffe\ufffe\ufffe«¬\u00ad®\ufffe",
      "°±²Ё\ufffeӢ¶·\ufffe№\ufffe»\ufffe\ufffe\ufffe©", "юабцдефгхийклмно", "пярстужвьызшэщчъ",
      "ЮАБЦДЕФГХИЙКЛМНО", "ПЯРСТУЖВЬЫЗШЭЩЧЪ"] },
  { names := ["koi8_u"]
    rows := ["─│┌┐└┘├┤┬┴┼▀▄█▌▐", "░▒▓⌠■∙√≈≤≥\u00a0⌡°²·÷", "═║╒ёє╔ії╗╘╙╚╛ґ╝╞", "╟╠╡ЁЄ╣ІЇ╦╧╨╩╪Ґ╬©",
      "юабцдефгхийклмно", "пярстужвьызшэщчъ", "ЮАБЦДЕФГХИЙКЛМНО", "ПЯРСТУЖВЬЫЗШЭЩЧЪ"] },
  { names := ["tis_620", "tis620", "tis_620_0", "tis_620_2529_0", "tis_620_2529_1", "iso_ir_166"]
    rows := ["", "", "\ufffeกขฃคฅฆงจฉชซฌญฎฏ", "ฐฑฒณดตถทธนบปผฝพฟ", "ภมยรฤลฦวศษสหฬอฮฯ",
      "ะ\u0e31าำ\u0e34\u0e35\u0e36\u0e37\u0e38\u0e39\u0e3a\ufffe\ufffe\ufffe\ufffe฿",
      "เแโใไๅๆ\u0e47\u0e48\u0e49\u0e4a\u0e4b\u0e4c\u0e4d\u0e4e๏",
      "๐๑๒๓๔๕๖๗๘๙๚๛\ufffe\ufffe\ufffe\ufffe"] }]

/-- Pages of desktop systems, with letters where the standards have controls. -/
def systemPages : List CodePage := [
  { names := ["cp1006"]
    rows := ["", "", "\u00a0۰۱۲۳۴۵۶۷۸۹،\u061b\u00ad\u061f\ufe81",
      "\ufe8d\ufe8e\ufe8e\ufe8f\ufe91\ufb56\ufb58\ufe93\ufe95\ufe97\ufb66\ufb68\ufe99\ufe9b\ufe9d\ufe9f",
      "\ufb7a\ufb7c\ufea1\ufea3\ufea5\ufea7\ufea9\ufb84\ufeab\ufead\ufb8c\ufeaf\ufb8a\ufeb1\ufeb3\ufeb5",
      "\ufeb7\ufeb9\ufebb\ufebd\ufebf\ufec1\ufec5\ufec9\ufeca\ufecb\ufecc\ufecd\ufece\ufecf\ufed0\ufed1",
      "\ufed3\ufed5\ufed7\ufed9\ufedb\ufb92\ufb94\ufedd\ufedf\ufee0\ufee1\ufee3\ufb9e\ufee5\ufee7\ufe85",
      "\ufeed\ufba6\ufba8\ufba9\ufbaa\ufe80\ufe89\ufe8a\ufe8b\ufef1\ufef2\ufef3\ufbb0\ufbae\ufe7c\ufe7d"] },
  { names := ["cp1250", "1250", "windows_1250"]
    rows := ["€\ufffe‚\ufffe„…†‡\ufffe‰Š‹ŚŤŽŹ", "\ufffe‘’“”•–—\ufffe™š›śťžź",
      "\u00a0ˇ˘Ł¤Ą¦§¨©Ş«¬\u00ad®Ż", "°±˛ł´µ¶·¸ąş»Ľ˝ľż", "ŔÁÂĂÄĹĆÇČÉĘËĚÍÎĎ", "ĐŃŇÓÔŐÖ×ŘŮÚŰÜÝŢß",
      "ŕáâăäĺćçčéęëěíîď", "đńňóôőö÷řůúűüýţ˙"] },
  { names := ["cp1251", "1251", "windows_1251"]
    rows := ["ЂЃ‚ѓ„…†‡€‰Љ‹ЊЌЋЏ", "ђ‘’“”•–—\ufffe™љ›њќћџ", "\u00a0ЎўЈ¤Ґ¦§Ё©Є«¬\u00ad®Ї",
      "°±Ііґµ¶·ё№є»јЅѕї", "АБВГДЕЖЗИЙКЛМНОП", "РСТУФХЦЧШЩЪЫЬЭЮЯ", "абвгдежзийклмноп",
      "рстуфхцчшщъыьэюя"] },
  { names := ["cp1252", "1252", "windows_1252"]
    rows := ["€\ufffe‚ƒ„…†‡ˆ‰Š‹Œ\ufffeŽ\ufffe", "\ufffe‘’“”•–—˜™š›œ\ufffežŸ", "", "", "", "", "",
      ""] },
  { names := ["cp1253", "1253", "windows_1253"]
    rows := ["€\ufffe‚ƒ„…†‡\ufffe‰\ufffe‹\ufffe\ufffe\ufffe\ufffe",
      "\ufffe‘’“”•–—\ufffe™\ufffe›\ufffe\ufffe\ufffe\ufffe", "\u00a0΅Ά£¤¥¦§¨©\ufffe«¬\u00ad®―",
      "°±²³΄µ¶·ΈΉΊ»Ό½ΎΏ", "ΐΑΒΓΔΕΖΗΘΙΚΛΜΝΞΟ", "ΠΡ\ufffeΣΤΥΦΧΨΩΪΫάέήί", "ΰαβγδεζηθικλμνξο",
      "πρςστυφχψωϊϋόύώ\ufffe"] },
  { names := ["cp1254", "1254", "windows_1254"]
    rows := ["€\ufffe‚ƒ„…†‡ˆ‰Š‹Œ\ufffe\ufffe\ufffe", "\ufffe‘’“”•–—˜™š›œ\ufffe\ufffeŸ", "", "",
      "", "ĞÑÒÓÔÕÖ×ØÙÚÛÜİŞß", "", "ğñòóôõö÷øùúûüışÿ"] },
  { names := ["cp1255", "1255", "windows_1255"]
    rows := ["€\ufffe‚ƒ„…†‡ˆ‰\ufffe‹\ufffe\ufffe\ufffe\ufffe",
      "\ufffe‘’“”•–—˜™\ufffe›\ufffe\ufffe\ufffe\ufffe", "\u00a0¡¢£₪¥¦§¨©×«¬\u00ad®¯",
      "°±²³´µ¶·¸¹÷»¼½¾¿",
      "\u05b0\u05b1\u05b2\u05b3\u05b4\u05b5\u05b6\u05b7\u05b8\u05b9\ufffe\u05bb\u05bc\u05bd\u05be\u05bf",
      "\u05c0\u05c1\u05c2\u05c3\u05f0\u05f1\u05f2\u05f3\u05f4\ufffe\ufffe\ufffe\ufffe\ufffe\ufffe\ufffe",
      "\u05d0\u05d1\u05d2\u05d3\u05d4\u05d5\u05d6\u05d7\u05d8\u05d9\u05da\u05db\u05dc\u05dd\u05de\u05df",
      "\u05e0\u05e1\u05e2\u05e3\u05e4\u05e5\u05e6\u05e7\u05e8\u05e9\u05ea\ufffe\ufffe\u200e\u200f\ufffe"] },
  { names := ["cp1256", "1256", "windows_1256"]
    rows := ["€\u067e‚ƒ„…†‡ˆ‰\u0679‹Œ\u0686\u0698\u0688",
      "\u06af‘’“”•–—\u06a9™\u0691›œ\u200c\u200d\u06ba", "\u00a0،¢£¤¥¦§¨©\u06be«¬\u00ad®¯",
      "°±²³´µ¶·¸¹\u061b»¼½¾\u061f",
      "\u06c1\u0621\u0622\u0623\u0624\u0625\u0626\u0627\u0628\u0629\u062a\u062b\u062c\u062d\u062e\u062f",
      "\u0630\u0631\u0632\u0633\u0634\u0635\u0636×\u0637\u0638\u0639\u063a\u0640\u0641\u0642\u0643",
      "à\u0644â\u0645\u0646\u0647\u0648çèéêë\u0649\u064aîï",
      "\u064b\u064c\u064d\u064eô\u064f\u0650÷\u0651ù\u0652ûü\u200e\u200f\u06d2"] },
  { names := ["cp1257", "1257", "windows_1257"]
    rows := ["€\ufffe‚\ufffe„…†‡\ufffe‰\ufffe‹\ufffe¨ˇ¸",
      "\ufffe‘’“”•–—\ufffe™\ufffe›\ufffe¯˛\ufffe", "\u00a0\ufffe¢£¤\ufffe¦§Ø©Ŗ«¬\u00ad®Æ",
      "°±²³´µ¶·ø¹ŗ»¼½¾æ", "ĄĮĀĆÄÅĘĒČÉŹĖĢĶĪĻ", "ŠŃŅÓŌÕÖ×ŲŁŚŪÜŻŽß", "ąįāćäåęēčéźėģķīļ",
      "šńņóōõö÷ųłśūüżž˙"] },
  { names := ["cp1258", "1258", "windows_1258"]
    rows := ["€\ufffe‚ƒ„…†‡ˆ‰\ufffe‹Œ\ufffe\ufffe\ufffe", "\ufffe‘’“”•–—˜™\ufffe›œ\ufffe\ufffeŸ",
      "", "", "ÀÁÂĂÄÅÆÇÈÉÊË\u0300ÍÎÏ", "ĐÑ\u0309ÓÔƠÖ×ØÙÚÛÜƯ\u0303ß", "àáâăäåæçèéêë\u0301íîï",
      "đñ\u0323óôơö÷øùúûüư₫ÿ"] },
  { names := ["cp874"]
    rows := [
      "€\ufffe\ufffe\ufffe\ufffe…\ufffe\ufffe\ufffe\ufffe\ufffe\ufffe\ufffe\ufffe\ufffe\ufffe",
      "\ufffe‘’“”•–—\ufffe\ufffe\ufffe\ufffe\ufffe\ufffe\ufffe\ufffe", "\u00a0กขฃคฅฆงจฉชซฌญฎฏ",
      "ฐฑฒณดตถทธนบปผฝพฟ", "ภมยรฤลฦวศษสหฬอฮฯ",
      "ะ\u0e31าำ\u0e34\u0e35\u0e36\u0e37\u0e38\u0e39\u0e3a\ufffe\ufffe\ufffe\ufffe฿",
      "เแโใไๅๆ\u0e47\u0e48\u0e49\u0e4a\u0e4b\u0e4c\u0e4d\u0e4e๏",
      "๐๑๒๓๔๕๖๗๘๙๚๛\ufffe\ufffe\ufffe\ufffe"] },
  { names := ["kz1048", "kz_1048", "rk1048", "strk1048_2002"]
    rows := ["ЂЃ‚ѓ„…†‡€‰Љ‹ЊҚҺЏ", "ђ‘’“”•–—\ufffe™љ›њқһџ", "\u00a0ҰұӘ¤Ө¦§Ё©Ғ«¬\u00ad®Ү",
      "°±Ііөµ¶·ё№ғ»әҢңү", "АБВГДЕЖЗИЙКЛМНОП", "РСТУФХЦЧШЩЪЫЬЭЮЯ", "абвгдежзийклмноп",
      "рстуфхцчшщъыьэюя"] },
  { names := ["mac_arabic"]
    rows := ["Ä\u00a0ÇÉÑÖÜáàâä\u06ba«çéè", "êëí…îïñó»ôö÷úùûü", " !\"#$٪&'()*+،-./",
      "\u0660\u0661\u0662\u0663\u0664\u0665\u0666\u0667\u0668\u0669:\u061b<=>\u061f",
      "❊\u0621\u0622\u0623\u0624\u0625\u0626\u0627\u0628\u0629\u062a\u062b\u062c\u062d\u062e\u062f",
      "\u0630\u0631\u0632\u0633\u0634\u0635\u0636\u0637\u0638\u0639\u063a[\\]^_",
      "\u0640\u0641\u0642\u0643\u0644\u0645\u0646\u0647\u0648\u0649\u064a\u064b\u064c\u064d\u064e\u064f",
      "\u0650\u0651\u0652\u067e\u0679\u0686\u06d5\u06a4\u06af\u0688\u0691\x7b|\x7d\u0698\u06d2"] },
  { names := ["mac_croatian"]
    rows := ["ÄÅÇÉÑÖÜáàâäãåçéè", "êëíìîïñóòôöõúùûü", "†°¢£§•¶ß®Š™´¨≠ŽØ", "∞±≤≥∆µ∂∑∏š∫ªºΩžø",
      "¿¡¬√ƒ≈Ć«Č…\u00a0ÀÃÕŒœ", "Đ—“”‘’÷◊\uf8ff©⁄€‹›Æ»", "–·‚„‰ÂćÁčÈÍÎÏÌÓÔ", "đÒÚÛÙıˆ˜¯πË˚¸Êæˇ"] },
  { names := ["mac_cyrillic", "maccyrillic"]
    rows := ["АБВГДЕЖЗИЙКЛМНОП", "РСТУФХЦЧШЩЪЫЬЭЮЯ", "†°Ґ£§•¶І®©™Ђђ≠Ѓѓ", "∞±≤≥іµґЈЄєЇїЉљЊњ",
      "јЅ¬√ƒ≈∆«»…\u00a0ЋћЌќѕ", "–—“”‘’÷„ЎўЏџ№Ёёя", "абвгдежзийклмноп", "рстуфхцчшщъыьэю€"] },
  { names := ["mac_farsi"]
    rows := ["Ä\u00a0ÇÉÑÖÜáàâä\u06ba«çéè", "êëí…îïñó»ôö÷úùûü", " !\"#$٪&'()*+،-./",
      "۰۱۲۳۴۵۶۷۸۹:\u061b<=>\u061f",
      "❊\u0621\u0622\u0623\u0624\u0625\u0626\u0627\u0628\u0629\u062a\u062b\u062c\u062d\u062e\u062f",
      "\u0630\u0631\u0632\u0633\u0634\u0635\u0636\u0637\u0638\u0639\u063a[\\]^_",
      "\u0640\u0641\u0642\u0643\u0644\u0645\u0646\u0647\u0648\u0649\u064a\u064b\u064c\u064d\u064e\u064f",
      "\u0650\u0651\u0652\u067e\u0679\u0686\u06d5\u06a4\u06af\u0688\u0691\x7b|\x7d\u0698\u06d2"] },
  { names := ["mac_greek", "macgreek"]
    rows := ["Ä¹²É³ÖÜ΅àâä΄¨çéè", "êë£™îï•½‰ôö¦€ùûü", "†ΓΔΘΛΞΠß®©ΣΪ§≠°·", "Α±≤≥¥ΒΕΖΗΙΚΜΦΫΨΩ",
      "άΝ¬ΟΡ≈Τ«»…\u00a0ΥΧΆΈœ", "–―“”‘’÷ΉΊΌΎέήίόΏ", "ύαβψδεφγηιξκλμνο", "πώρστθωςχυζϊϋΐΰ\u00ad"] },
  { names := ["mac_iceland", "maciceland"]
    rows := ["ÄÅÇÉÑÖÜáàâäãåçéè", "êëíìîïñóòôöõúùûü", "Ý°¢£§•¶ß®©™´¨≠ÆØ", "∞±≤≥¥µ∂∑∏π∫ªºΩæø",
      "¿¡¬√ƒ≈∆«»…\u00a0ÀÃÕŒœ", "–—“”‘’÷◊ÿŸ⁄€ÐðÞþ", "ý·‚„‰ÂÊÁËÈÍÎÏÌÓÔ", "\uf8ffÒÚÛÙıˆ˜¯˘˙˚¸˝˛ˇ"] },
  { names := ["mac_latin2", "maccentraleurope", "mac_centeuro", "maclatin2"]
    rows := ["ÄĀāÉĄÖÜáąČäčĆćéŹ", "źĎíďĒēĖóėôöõúĚěü", "†°Ę£§•¶ß®©™ę¨≠ģĮ", "įĪ≤≥īĶ∂∑łĻļĽľĹĺŅ",
      "ņŃ¬√ńŇ∆«»…\u00a0ňŐÕőŌ", "–—“”‘’÷◊ōŔŕŘ‹›řŖ", "ŗŠ‚„šŚśÁŤťÍŽžŪÓÔ", "ūŮÚůŰűŲųÝýķŻŁżĢˇ"] },
  { names := ["mac_roman", "macintosh", "macroman"]
    rows := ["ÄÅÇÉÑÖÜáàâäãåçéè", "êëíìîïñóòôöõúùûü", "†°¢£§•¶ß®©™´¨≠ÆØ", "∞±≤≥¥µ∂∑∏π∫ªºΩæø",
      "¿¡¬√ƒ≈∆«»…\u00a0ÀÃÕŒœ", "–—“”‘’÷◊ÿŸ⁄€‹›ﬁﬂ", "‡·‚„‰ÂÊÁËÈÍÎÏÌÓÔ", "\uf8ffÒÚÛÙıˆ˜¯˘˙˚¸˝˛ˇ"] },
  { names := ["mac_romanian"]
    rows := ["ÄÅÇÉÑÖÜáàâäãåçéè", "êëíìîïñóòôöõúùûü", "†°¢£§•¶ß®©™´¨≠ĂȘ", "∞±≤≥¥µ∂∑∏π∫ªºΩăș",
      "¿¡¬√ƒ≈∆«»…\u00a0ÀÃÕŒœ", "–—“”‘’÷◊ÿŸ⁄€‹›Țț", "‡·‚„‰ÂÊÁËÈÍÎÏÌÓÔ", "\uf8ffÒÚÛÙıˆ˜¯˘˙˚¸˝˛ˇ"] },
  { names := ["mac_turkish", "macturkish"]
    rows := ["ÄÅÇÉÑÖÜáàâäãåçéè", "êëíìîïñóòôöõúùûü", "†°¢£§•¶ß®©™´¨≠ÆØ", "∞±≤≥¥µ∂∑∏π∫ªºΩæø",
      "¿¡¬√ƒ≈∆«»…\u00a0ÀÃÕŒœ", "–—“”‘’÷◊ÿŸĞğİıŞş", "‡·‚„‰ÂÊÁËÈÍÎÏÌÓÔ",
      "\uf8ffÒÚÛÙ\uf8a0ˆ˜¯˘˙˚¸˝˛ˇ"] },
  { names := ["palmos"]
    rows := ["€\u0081‚ƒ„…†‡ˆ‰Š‹Œ♦♣♥", "♠‘’“”•–—˜™š\u009bœ\u009d\u009eŸ", "", "", "", "", "", ""] },
  { names := ["ptcp154", "csptcp154", "pt154", "cp154", "cyrillic_asian"]
    rows := ["ҖҒӮғ„…ҶҮҲүҠӢҢҚҺҸ", "җ‘’“”•–—ҳҷҡӣңқһҹ", "\u00a0ЎўЈӨҘҰ§Ё©Ә«¬ӯ®Ҝ", "°ұІіҙө¶·ё№ә»јҪҫҝ",
      "АБВГДЕЖЗИЙКЛМНОП", "РСТУФХЦЧШЩЪЫЬЭЮЯ", "абвгдежзийклмноп", "рстуфхцчшщъыьэюя"] }]

/-- Pages with the lines and boxes of text consoles. -/
def consolePages : List CodePage := [
  { names := ["cp1125", "1125", "ibm1125", "cp866u", "ruscii"]
    rows := ["АБВГДЕЖЗИЙКЛМНОП", "РСТУФХЦЧШЩЪЫЬЭЮЯ", "абвгдежзийклмноп", "░▒▓│┤╡╢╖╕╣║╗╝╜╛┐",
      "└┴┬├─┼╞╟╚╔╩╦╠═╬╧", "╨╤╥╙╘╒╓╫╪┘┌█▄▌▐▀", "рстуфхцчшщъыьэюя", "ЁёҐґЄєІіЇї·√№¤■\u00a0"] },
  { names := ["cp437", "437", "cspc8codepage437", "ibm437"]
    rows := ["ÇüéâäàåçêëèïîìÄÅ", "ÉæÆôöòûùÿÖÜ¢£¥₧ƒ", "áíóúñÑªº¿⌐¬½¼¡«»", "░▒▓│┤╡╢╖╕╣║╗╝╜╛┐",
      "└┴┬├─┼╞╟╚╔╩╦╠═╬╧", "╨╤╥╙╘╒╓╫╪┘┌█▄▌▐▀", "αßΓπΣσµτΦΘΩδ∞φε∩", "≡±≥≤⌠⌡÷≈°∙·√ⁿ²■\u00a0"] },
  { names := ["cp720"]
    rows := ["\u0080\u0081éâ\u0084à\u0086çêëèïî\u008d\u008e\u008f",
      "\u0090\u0651\u0652ô¤\u0640ûù\u0621\u0622\u0623\u0624£\u0625\u0626\u0627",
      "\u0628\u0629\u062a\u062b\u062c\u062d\u062e\u062f\u0630\u0631\u0632\u0633\u0634\u0635«»",
      "░▒▓│┤╡╢╖╕╣║╗╝╜╛┐", "└┴┬├─┼╞╟╚╔╩╦╠═╬╧", "╨╤╥╙╘╒╓╫╪┘┌█▄▌▐▀",
      "\u0636\u0637\u0638\u0639\u063a\u0641µ\u0642\u0643\u0644\u0645\u0646\u0647\u0648\u0649\u064a",
      "≡\u064b\u064c\u064d\u064e\u064f\u0650≈°∙·√ⁿ²■\u00a0"] },
  { names := ["cp737"]
    rows := ["ΑΒΓΔΕΖΗΘΙΚΛΜΝΞΟΠ", "ΡΣΤΥΦΧΨΩαβγδεζηθ", "ικλμνξοπρσςτυφχψ", "░▒▓│┤╡╢╖╕╣║╗╝╜╛┐",
      "└┴┬├─┼╞╟╚╔╩╦╠═╬╧", "╨╤╥╙╘╒╓╫╪┘┌█▄▌▐▀", "ωάέήϊίόύϋώΆΈΉΊΌΎ", "Ώ±≥≤ΪΫ÷≈°∙·√ⁿ²■\u00a0"] },
  { names := ["cp775", "775", "cspc775baltic", "ibm775"]
    rows := ["ĆüéāäģåćłēŖŗīŹÄÅ", "ÉæÆōöĢ¢ŚśÖÜø£Ø×¤", "ĀĪóŻżź”¦©®¬½¼Ł«»", "░▒▓│┤ĄČĘĖ╣║╗╝ĮŠ┐",
      "└┴┬├─┼ŲŪ╚╔╩╦╠═╬Ž", "ąčęėįšųūž┘┌█▄▌▐▀", "ÓßŌŃõÕµńĶķĻļņĒŅ’", "\u00ad±“¾¶§÷„°∙·¹³²■\u00a0"] },
  { names := ["cp850", "850", "cspc850multilingual", "ibm850"]
    rows := ["ÇüéâäàåçêëèïîìÄÅ", "ÉæÆôöòûùÿÖÜø£Ø×ƒ", "áíóúñÑªº¿®¬½¼¡«»", "░▒▓│┤ÁÂÀ©╣║╗╝¢¥┐",
      "└┴┬├─┼ãÃ╚╔╩╦╠═╬¤", "ðÐÊËÈıÍÎÏ┘┌█▄¦Ì▀", "ÓßÔÒõÕµþÞÚÛÙýÝ¯´", "\u00ad±‗¾¶§÷¸°¨·¹³²■\u00a0"] },
  { names := ["cp852", "852", "cspcp852", "ibm852"]
    rows := ["ÇüéâäůćçłëŐőîŹÄĆ", "ÉĹĺôöĽľŚśÖÜŤťŁ×č", "áíóúĄąŽžĘę¬źČş«»", "░▒▓│┤ÁÂĚŞ╣║╗╝Żż┐",
      "└┴┬├─┼Ăă╚╔╩╦╠═╬¤", "đĐĎËďŇÍÎě┘┌█▄ŢŮ▀", "ÓßÔŃńňŠšŔÚŕŰýÝţ´", "\u00ad˝˛ˇ˘§÷¸°¨˙űŘř■\u00a0"] },
  { names := ["cp855", "855", "csibm855", "ibm855"]
    rows := ["ђЂѓЃёЁєЄѕЅіІїЇјЈ", "љЉњЊћЋќЌўЎџЏюЮъЪ", "аАбБцЦдДеЕфФгГ«»", "░▒▓│┤хХиИ╣║╗╝йЙ┐",
      "└┴┬├─┼кК╚╔╩╦╠═╬¤", "лЛмМнНоОп┘┌█▄Пя▀", "ЯрРсСтТуУжЖвВьЬ№", "\u00adыЫзЗшШэЭщЩчЧ§■\u00a0"] },
  { names := ["cp856"]
    rows := [
      "\u05d0\u05d1\u05d2\u05d3\u05d4\u05d5\u05d6\u05d7\u05d8\u05d9\u05da\u05db\u05dc\u05dd\u05de\u05df",
      "\u05e0\u05e1\u05e2\u05e3\u05e4\u05e5\u05e6\u05e7\u05e8\u05e9\u05ea\ufffe£\ufffe×\ufffe",
      "\ufffe\ufffe\ufffe\ufffe\ufffe\ufffe\ufffe\ufffe\ufffe®¬½¼\ufffe«»",
      "░▒▓│┤\ufffe\ufffe\ufffe©╣║╗╝¢¥┐", "└┴┬├─┼\ufffe\ufffe╚╔╩╦╠═╬¤",
      "\ufffe\ufffe\ufffe\ufffe\ufffe\ufffe\ufffe\ufffe\ufffe┘┌█▄¦\ufffe▀",
      "\ufffe\ufffe\ufffe\ufffe\ufffe\ufffeµ\ufffe\ufffe\ufffe\ufffe\ufffe\ufffe\ufffe¯´",
      "\u00ad±‗¾¶§÷¸°¨·¹³²■\u00a0"] },
  { names := ["cp857", "857", "csibm857", "ibm857"]
    rows := ["ÇüéâäàåçêëèïîıÄÅ", "ÉæÆôöòûùİÖÜø£ØŞş", "áíóúñÑĞğ¿®¬½¼¡«»", "░▒▓│┤ÁÂÀ©╣║╗╝¢¥┐",
      "└┴┬├─┼ãÃ╚╔╩╦╠═╬¤", "ºªÊËÈ\ufffeÍÎÏ┘┌█▄¦Ì▀", "ÓßÔÒõÕµ\ufffe×ÚÛÙìÿ¯´",
      "\u00ad±\ufffe¾¶§÷¸°¨·¹³²■\u00a0"] },
  { names := ["cp858", "858", "csibm858", "ibm858"]
    rows := ["ÇüéâäàåçêëèïîìÄÅ", "ÉæÆôöòûùÿÖÜø£Ø×ƒ", "áíóúñÑªº¿®¬½¼¡«»", "░▒▓│┤ÁÂÀ©╣║╗╝¢¥┐",
      "└┴┬├─┼ãÃ╚╔╩╦╠═╬¤", "ðÐÊËÈ€ÍÎÏ┘┌█▄¦Ì▀", "ÓßÔÒõÕµþÞÚÛÙýÝ¯´", "\u00ad±‗¾¶§÷¸°¨·¹³²■\u00a0"] },
  { names := ["cp860", "860", "csibm860", "ibm860"]
    rows := ["ÇüéâãàÁçêÊèÍÔìÃÂ", "ÉÀÈôõòÚùÌÕÜ¢£Ù₧Ó", "áíóúñÑªº¿Ò¬½¼¡«»", "░▒▓│┤╡╢╖╕╣║╗╝╜╛┐",
      "└┴┬├─┼╞╟╚╔╩╦╠═╬╧", "╨╤╥╙╘╒╓╫╪┘┌█▄▌▐▀", "αßΓπΣσµτΦΘΩδ∞φε∩", "≡±≥≤⌠⌡÷≈°∙·√ⁿ²■\u00a0"] },
  { names := ["cp861", "861", "cp_is", "csibm861", "ibm861"]
    rows := ["ÇüéâäàåçêëèÐðÞÄÅ", "ÉæÆôöþûÝýÖÜø£Ø₧ƒ", "áíóúÁÍÓÚ¿⌐¬½¼¡«»", "░▒▓│┤╡╢╖╕╣║╗╝╜╛┐",
      "└┴┬├─┼╞╟╚╔╩╦╠═╬╧", "╨╤╥╙╘╒╓╫╪┘┌█▄▌▐▀", "αßΓπΣσµτΦΘΩδ∞φε∩", "≡±≥≤⌠⌡÷≈°∙·√ⁿ²■\u00a0"] },
  { names := ["cp862", "862", "cspc862latinhebrew", "ibm862"]
    rows := [
      "\u05d0\u05d1\u05d2\u05d3\u05d4\u05d5\u05d6\u05d7\u05d8\u05d9\u05da\u05db\u05dc\u05dd\u05de\u05df",
      "\u05e0\u05e1\u05e2\u05e3\u05e4\u05e5\u05e6\u05e7\u05e8\u05e9\u05ea¢£¥₧ƒ",
      "áíóúñÑªº¿⌐¬½¼¡«»", "░▒▓│┤╡╢╖╕╣║╗╝╜╛┐", "└┴┬├─┼╞╟╚╔╩╦╠═╬╧", "╨╤╥╙╘╒╓╫╪┘┌█▄▌▐▀",
      "αßΓπΣσµτΦΘΩδ∞φε∩", "≡±≥≤⌠⌡÷≈°∙·√ⁿ²■\u00a0"] },
  { names := ["cp863", "863", "csibm863", "ibm863"]
    rows := ["ÇüéâÂà¶çêëèïî‗À§", "ÉÈÊôËÏûù¤ÔÜ¢£ÙÛƒ", "¦´óú¨¸³¯Î⌐¬½¼¾«»", "░▒▓│┤╡╢╖╕╣║╗╝╜╛┐",
      "└┴┬├─┼╞╟╚╔╩╦╠═╬╧", "╨╤╥╙╘╒╓╫╪┘┌█▄▌▐▀", "αßΓπΣσµτΦΘΩδ∞φε∩", "≡±≥≤⌠⌡÷≈°∙·√ⁿ²■\u00a0"] },
  { names := ["cp864", "864", "csibm864", "ibm864"]
    rows := ["", "", " !\"#$٪&'()*+,-./", "", "", "", "", "", "°·∙√▒─│┼┤┬├┴┐┌└┘",
      "β∞φ±½¼≈«»\ufef7\ufef8\ufffe\ufffe\ufefb\ufefc\ufffe",
      "\u00a0\u00ad\ufe82£¤\ufe84\ufffe\ufffe\ufe8e\ufe8f\ufe95\ufe99،\ufe9d\ufea1\ufea5",
      "\u0660\u0661\u0662\u0663\u0664\u0665\u0666\u0667\u0668\u0669\ufed1\u061b\ufeb1\ufeb5\ufeb9\u061f",
      "¢\ufe80\ufe81\ufe83\ufe85\ufeca\ufe8b\ufe8d\ufe91\ufe93\ufe97\ufe9b\ufe9f\ufea3\ufea7\ufea9",
      "\ufeab\ufead\ufeaf\ufeb3\ufeb7\ufebb\ufebf\ufec1\ufec5\ufecb\ufecf¦¬÷×\ufec9",
      "\u0640\ufed3\ufed7\ufedb\ufedf\ufee3\ufee7\ufeeb\ufeed\ufeef\ufef3\ufebd\ufecc\ufece\ufecd\ufee1",
      "\ufe7d\u0651\ufee5\ufee9\ufeec\ufef0\ufef2\ufed0\ufed5\ufef5\ufef6\ufedd\ufed9\ufef1■\ufffe"] },
  { names := ["cp865", "865", "csibm865", "ibm865"]
    rows := ["ÇüéâäàåçêëèïîìÄÅ", "ÉæÆôöòûùÿÖÜø£Ø₧ƒ", "áíóúñÑªº¿⌐¬½¼¡«¤", "░▒▓│┤╡╢╖╕╣║╗╝╜╛┐",
      "└┴┬├─┼╞╟╚╔╩╦╠═╬╧", "╨╤╥╙╘╒╓╫╪┘┌█▄▌▐▀", "αßΓπΣσµτΦΘΩδ∞φε∩", "≡±≥≤⌠⌡÷≈°∙·√ⁿ²■\u00a0"] },
  { names := ["cp866", "866", "csibm866", "ibm866"]
    rows := ["АБВГДЕЖЗИЙКЛМНОП", "РСТУФХЦЧШЩЪЫЬЭЮЯ", "абвгдежзийклмноп", "░▒▓│┤╡╢╖╕╣║╗╝╜╛┐",
      "└┴┬├─┼╞╟╚╔╩╦╠═╬╧", "╨╤╥╙╘╒╓╫╪┘┌█▄▌▐▀", "рстуфхцчшщъыьэюя", "ЁёЄєЇїЎў°∙·√№¤■\u00a0"] },
  { names := ["cp869", "869", "cp_gr", "csibm869", "ibm869"]
    rows := ["\ufffe\ufffe\ufffe\ufffe\ufffe\ufffeΆ\ufffe·¬¦‘’Έ―Ή", "ΊΪΌ\ufffe\ufffeΎΫ©Ώ²³ά£έήί",
      "ϊΐόύΑΒΓΔΕΖΗ½ΘΙ«»", "░▒▓│┤ΚΛΜΝ╣║╗╝ΞΟ┐", "└┴┬├─┼ΠΡ╚╔╩╦╠═╬Σ", "ΤΥΦΧΨΩαβγ┘┌█▄δε▀",
      "ζηθικλμνξοπρσςτ΄", "\u00ad±υφχ§ψ΅°¨ωϋΰώ■\u00a0"] }]

/-- Pages that do not have ASCII in their first half. -/
def mainframePages : List CodePage := [
  { names := ["cp037", "037", "csibm037", "ebcdic_cp_ca", "ebcdic_cp_nl", "ebcdic_cp_us",
      "ebcdic_cp_wt", "ibm037", "ibm039"]
    rows := ["\x00\x01\x02\x03\u009c\x09\u0086\x7f\u0097\u008d\u008e\x0b\x0c\x0d\x0e\x0f",
      "\x10\x11\x12\x13\u009d\u0085\x08\u0087\x18\x19\u0092\u008f\x1c\x1d\x1e\x1f",
      "\u0080\u0081\u0082\u0083\u0084\x0a\x17\x1b\u0088\u0089\u008a\u008b\u008c\x05\x06\x07",
      "\u0090\u0091\x16\u0093\u0094\u0095\u0096\x04\u0098\u0099\u009a\u009b\x14\x15\u009e\x1a",
      " \u00a0âäàáãåçñ¢.<(+|", "&éêëèíîïìß!$*);¬", "-/ÂÄÀÁÃÅÇÑ¦,%_>?", "øÉÊËÈÍÎÏÌ`:#@'=\"",
      "Øabcdefghi«»ðýþ±", "°jklmnopqrªºæ¸Æ¤", "µ~stuvwxyz¡¿ÐÝÞ®", "^£¥·©§¶¼½¾[]¯¨´×",
      "\x7bABCDEFGHI\u00adôöòóõ", "\x7dJKLMNOPQR¹ûüùúÿ", "\\÷STUVWXYZ²ÔÖÒÓÕ",
      "0123456789³ÛÜÙÚ\u009f"] },
  { names := ["cp1026", "1026", "csibm1026", "ibm1026"]
    rows := ["\x00\x01\x02\x03\u009c\x09\u0086\x7f\u0097\u008d\u008e\x0b\x0c\x0d\x0e\x0f",
      "\x10\x11\x12\x13\u009d\u0085\x08\u0087\x18\x19\u0092\u008f\x1c\x1d\x1e\x1f",
      "\u0080\u0081\u0082\u0083\u0084\x0a\x17\x1b\u0088\u0089\u008a\u008b\u008c\x05\x06\x07",
      "\u0090\u0091\x16\u0093\u0094\u0095\u0096\x04\u0098\u0099\u009a\u009b\x14\x15\u009e\x1a",
      " \u00a0âäàáãå\x7bñÇ.<(+!", "&éêëèíîïìßĞİ*);^", "-/ÂÄÀÁÃÅ[Ñş,%_>?", "øÉÊËÈÍÎÏÌı:ÖŞ'=Ü",
      "Øabcdefghi«»\x7d`¦±", "°jklmnopqrªºæ¸Æ¤", "µöstuvwxyz¡¿]$@®", "¢£¥·©§¶¼½¾¬|¯¨´×",
      "çABCDEFGHI\u00adô~òóõ", "ğJKLMNOPQR¹û\\ùúÿ", "ü÷STUVWXYZ²Ô#ÒÓÕ", "0123456789³Û\"ÙÚ\u009f"] },
  { names := ["cp1140", "1140", "ibm1140"]
    rows := ["\x00\x01\x02\x03\u009c\x09\u0086\x7f\u0097\u008d\u008e\x0b\x0c\x0d\x0e\x0f",
      "\x10\x11\x12\x13\u009d\u0085\x08\u0087\x18\x19\u0092\u008f\x1c\x1d\x1e\x1f",
      "\u0080\u0081\u0082\u0083\u0084\x0a\x17\x1b\u0088\u0089\u008a\u008b\u008c\x05\x06\x07",
      "\u0090\u0091\x16\u0093\u0094\u0095\u0096\x04\u0098\u0099\u009a\u009b\x14\x15\u009e\x1a",
      " \u00a0âäàáãåçñ¢.<(+|", "&éêëèíîïìß!$*);¬", "-/ÂÄÀÁÃÅÇÑ¦,%_>?", "øÉÊËÈÍÎÏÌ`:#@'=\"",
      "Øabcdefghi«»ðýþ±", "°jklmnopqrªºæ¸Æ€", "µ~stuvwxyz¡¿ÐÝÞ®", "^£¥·©§¶¼½¾[]¯¨´×",
      "\x7bABCDEFGHI\u00adôöòóõ", "\x7dJKLMNOPQR¹ûüùúÿ", "\\÷STUVWXYZ²ÔÖÒÓÕ",
      "0123456789³ÛÜÙÚ\u009f"] },
  { names := ["cp273", "273", "ibm273", "csibm273"]
    rows := ["\x00\x01\x02\x03\u009c\x09\u0086\x7f\u0097\u008d\u008e\x0b\x0c\x0d\x0e\x0f",
      "\x10\x11\x12\x13\u009d\u0085\x08\u0087\x18\x19\u0092\u008f\x1c\x1d\x1e\x1f",
      "\u0080\u0081\u0082\u0083\u0084\x0a\x17\x1b\u0088\u0089\u008a\u008b\u008c\x05\x06\x07",
      "\u0090\u0091\x16\u0093\u0094\u0095\u0096\x04\u0098\u0099\u009a\u009b\x14\x15\u009e\x1a",
      " \u00a0â\x7bàáãåçñÄ.<(+!", "&éêëèíîïì~Ü$*);^", "-/Â[ÀÁÃÅÇÑö,%_>?", "øÉÊËÈÍÎÏÌ`:#§'=\"",
      "Øabcdefghi«»ðýþ±", "°jklmnopqrªºæ¸Æ¤", "µßstuvwxyz¡¿ÐÝÞ®", "¢£¥·©@¶¼½¾¬|‾¨´×",
      "äABCDEFGHI\u00adô¦òóõ", "üJKLMNOPQR¹û\x7dùúÿ", "Ö÷STUVWXYZ²Ô\\ÒÓÕ",
      "0123456789³Û]ÙÚ\u009f"] },
  { names := ["cp424", "424", "csibm424", "ebcdic_cp_he", "ibm424"]
    rows := ["\x00\x01\x02\x03\u009c\x09\u0086\x7f\u0097\u008d\u008e\x0b\x0c\x0d\x0e\x0f",
      "\x10\x11\x12\x13\u009d\u0085\x08\u0087\x18\x19\u0092\u008f\x1c\x1d\x1e\x1f",
      "\u0080\u0081\u0082\u0083\u0084\x0a\x17\x1b\u0088\u0089\u008a\u008b\u008c\x05\x06\x07",
      "\u0090\u0091\x16\u0093\u0094\u0095\u0096\x04\u0098\u0099\u009a\u009b\x14\x15\u009e\x1a",
      " \u05d0\u05d1\u05d2\u05d3\u05d4\u05d5\u05d6\u05d7\u05d8¢.<(+|",
      "&\u05d9\u05da\u05db\u05dc\u05dd\u05de\u05df\u05e0\u05e1!$*);¬",
      "-/\u05e2\u05e3\u05e4\u05e5\u05e6\u05e7\u05e8\u05e9¦,%_>?",
      "\ufffe\u05ea\ufffe\ufffe\u00a0\ufffe\ufffe\ufffe‗`:#@'=\"",
      "\ufffeabcdefghi«»\ufffe\ufffe\ufffe±", "°jklmnopqr\ufffe\ufffe\ufffe¸\ufffe¤",
      "µ~stuvwxyz\ufffe\ufffe\ufffe\ufffe\ufffe®", "^£¥·©§¶¼½¾[]¯¨´×",
      "\x7bABCDEFGHI\u00ad\ufffe\ufffe\ufffe\ufffe\ufffe",
      "\x7dJKLMNOPQR¹\ufffe\ufffe\ufffe\ufffe\ufffe",
      "\\÷STUVWXYZ²\ufffe\ufffe\ufffe\ufffe\ufffe", "0123456789³\ufffe\ufffe\ufffe\ufffe\u009f"] },
  { names := ["cp500", "500", "csibm500", "ebcdic_cp_be", "ebcdic_cp_ch", "ibm500"]
    rows := ["\x00\x01\x02\x03\u009c\x09\u0086\x7f\u0097\u008d\u008e\x0b\x0c\x0d\x0e\x0f",
      "\x10\x11\x12\x13\u009d\u0085\x08\u0087\x18\x19\u0092\u008f\x1c\x1d\x1e\x1f",
      "\u0080\u0081\u0082\u0083\u0084\x0a\x17\x1b\u0088\u0089\u008a\u008b\u008c\x05\x06\x07",
      "\u0090\u0091\x16\u0093\u0094\u0095\u0096\x04\u0098\u0099\u009a\u009b\x14\x15\u009e\x1a",
      " \u00a0âäàáãåçñ[.<(+!", "&éêëèíîïìß]$*);^", "-/ÂÄÀÁÃÅÇÑ¦,%_>?", "øÉÊËÈÍÎÏÌ`:#@'=\"",
      "Øabcdefghi«»ðýþ±", "°jklmnopqrªºæ¸Æ¤", "µ~stuvwxyz¡¿ÐÝÞ®", "¢£¥·©§¶¼½¾¬|¯¨´×",
      "\x7bABCDEFGHI\u00adôöòóõ", "\x7dJKLMNOPQR¹ûüùúÿ", "\\÷STUVWXYZ²ÔÖÒÓÕ",
      "0123456789³ÛÜÙÚ\u009f"] },
  { names := ["cp875"]
    rows := ["\x00\x01\x02\x03\u009c\x09\u0086\x7f\u0097\u008d\u008e\x0b\x0c\x0d\x0e\x0f",
      "\x10\x11\x12\x13\u009d\u0085\x08\u0087\x18\x19\u0092\u008f\x1c\x1d\x1e\x1f",
      "\u0080\u0081\u0082\u0083\u0084\x0a\x17\x1b\u0088\u0089\u008a\u008b\u008c\x05\x06\x07",
      "\u0090\u0091\x16\u0093\u0094\u0095\u0096\x04\u0098\u0099\u009a\u009b\x14\x15\u009e\x1a",
      " ΑΒΓΔΕΖΗΘΙ[.<(+!", "&ΚΛΜΝΞΟΠΡΣ]$*);^", "-/ΤΥΦΧΨΩΪΫ|,%_>?", "¨ΆΈΉ\u00a0ΊΌΎΏ`:#@'=\"",
      "΅abcdefghiαβγδεζ", "°jklmnopqrηθικλμ", "´~stuvwxyzνξοπρσ", "£άέήϊίόύϋώςτυφχψ",
      "\x7bABCDEFGHI\u00adωΐΰ‘―", "\x7dJKLMNOPQR±½\x1a·’¦", "\\\x1aSTUVWXYZ²§\x1a\x1a«¬",
      "0123456789³©\x1a\x1a»\u009f"] }]

def all : List CodePage := standardPages ++ systemPages ++ consolePages ++ mainframePages

end Quire.CodePage
