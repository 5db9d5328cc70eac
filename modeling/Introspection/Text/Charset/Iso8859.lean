/-!
# ISO 8859 charsets

The parts of ISO 8859. Their control characters are those of Unicode.
-/

namespace Introspection.Text

/-- The control characters from 128 to 159. -/
def controls : List Char := (List.range 32).map fun i => Char.ofNat (128 + i)

/-- The upper half of `iso8859_2` from its first printing character on. -/
def iso8859Part2 : List Char :=
  ("\u00a0Ą˘Ł¤ĽŚ§¨ŠŞŤŹ\u00adŽŻ°ą˛ł´ľśˇ¸šşťź˝žżŔÁÂĂÄĹĆÇČÉĘËĚÍÎĎĐŃŇÓÔŐÖ×ŘŮÚŰÜÝŢß" ++
    "ŕáâăäĺćçčéęëěíîďđńňóôőö÷řůúűüýţ˙").toList

/-- The upper half of `iso8859_3` from its first printing character on. -/
def iso8859Part3 : List Char :=
  ("\u00a0Ħ˘£¤\ufffdĤ§¨İŞĞĴ\u00ad\ufffdŻ°ħ²³´µĥ·¸ışğĵ½\ufffdżÀÁÂ\ufffdÄĊĈÇÈÉÊËÌÍÎÏ" ++
    "\ufffdÑÒÓÔĠÖ×ĜÙÚÛÜŬŜßàáâ\ufffdäċĉçèéêëìíîï\ufffdñòóôġö÷ĝùúûüŭŝ˙").toList

/-- The upper half of `iso8859_4` from its first printing character on. -/
def iso8859Part4 : List Char :=
  ("\u00a0ĄĸŖ¤ĨĻ§¨ŠĒĢŦ\u00adŽ¯°ą˛ŗ´ĩļˇ¸šēģŧŊžŋĀÁÂÃÄÅÆĮČÉĘËĖÍÎĪĐŅŌĶÔÕÖ×ØŲÚÛÜŨŪß" ++
    "āáâãäåæįčéęëėíîīđņōķôõö÷øųúûüũū˙").toList

/-- The upper half of `iso8859_5` from its first printing character on. -/
def iso8859Part5 : List Char :=
  ("\u00a0ЁЂЃЄЅІЇЈЉЊЋЌ\u00adЎЏАБВГДЕЖЗИЙКЛМНОПРСТУФХЦЧШЩЪЫЬЭЮЯабвгдежзийклмноп" ++
    "рстуфхцчшщъыьэюя№ёђѓєѕіїјљњћќ§ўџ").toList

/-- The upper half of `iso8859_6` from its first printing character on. -/
def iso8859Part6 : List Char :=
  ("\u00a0\ufffd\ufffd\ufffd¤\ufffd\ufffd\ufffd\ufffd\ufffd\ufffd\ufffd،\u00ad\ufffd\ufffd" ++
    "\ufffd\ufffd\ufffd\ufffd\ufffd\ufffd\ufffd\ufffd" ++
    "\ufffd\ufffd\ufffd\u061b\ufffd\ufffd\ufffd\u061f" ++
    "\ufffd\u0621\u0622\u0623\u0624\u0625\u0626\u0627" ++
    "\u0628\u0629\u062a\u062b\u062c\u062d\u062e\u062f" ++
    "\u0630\u0631\u0632\u0633\u0634\u0635\u0636\u0637" ++
    "\u0638\u0639\u063a\ufffd\ufffd\ufffd\ufffd\ufffd" ++
    "\u0640\u0641\u0642\u0643\u0644\u0645\u0646\u0647" ++
    "\u0648\u0649\u064a\u064b\u064c\u064d\u064e\u064f" ++
    "\u0650\u0651\u0652\ufffd\ufffd\ufffd\ufffd\ufffd" ++
    "\ufffd\ufffd\ufffd\ufffd\ufffd\ufffd\ufffd\ufffd").toList

/-- The upper half of `iso8859_7` from its first printing character on. -/
def iso8859Part7 : List Char :=
  ("\u00a0‘’£€₯¦§¨©ͺ«¬\u00ad\ufffd―°±²³΄΅Ά·ΈΉΊ»Ό½ΎΏΐΑΒΓΔΕΖΗΘΙΚΛΜΝΞΟΠΡ\ufffdΣΤΥΦΧΨΩΪΫάέήί" ++
    "ΰαβγδεζηθικλμνξοπρςστυφχψωϊϋόύώ\ufffd").toList

/-- The upper half of `iso8859_8` from its first printing character on. -/
def iso8859Part8 : List Char :=
  ("\u00a0\ufffd¢£¤¥¦§¨©×«¬\u00ad®¯°±²³´µ¶·¸¹÷»¼½¾\ufffd" ++
    "\ufffd\ufffd\ufffd\ufffd\ufffd\ufffd\ufffd\ufffd" ++
    "\ufffd\ufffd\ufffd\ufffd\ufffd\ufffd\ufffd\ufffd" ++
    "\ufffd\ufffd\ufffd\ufffd\ufffd\ufffd\ufffd\ufffd\ufffd\ufffd\ufffd\ufffd\ufffd\ufffd\ufffd‗" ++
    "\u05d0\u05d1\u05d2\u05d3\u05d4\u05d5\u05d6\u05d7" ++
    "\u05d8\u05d9\u05da\u05db\u05dc\u05dd\u05de\u05df" ++
    "\u05e0\u05e1\u05e2\u05e3\u05e4\u05e5\u05e6\u05e7" ++
    "\u05e8\u05e9\u05ea\ufffd\ufffd\u200e\u200f\ufffd").toList

/-- The upper half of `iso8859_9` from its first printing character on. -/
def iso8859Part9 : List Char :=
  ("\u00a0¡¢£¤¥¦§¨©ª«¬\u00ad®¯°±²³´µ¶·¸¹º»¼½¾¿ÀÁÂÃÄÅÆÇÈÉÊËÌÍÎÏĞÑÒÓÔÕÖ×ØÙÚÛÜİŞß" ++
    "àáâãäåæçèéêëìíîïğñòóôõö÷øùúûüışÿ").toList

/-- The upper half of `iso8859_10` from its first printing character on. -/
def iso8859Part10 : List Char :=
  ("\u00a0ĄĒĢĪĨĶ§ĻĐŠŦŽ\u00adŪŊ°ąēģīĩķ·ļđšŧž―ūŋĀÁÂÃÄÅÆĮČÉĘËĖÍÎÏÐŅŌÓÔÕÖŨØŲÚÛÜÝÞß" ++
    "āáâãäåæįčéęëėíîïðņōóôõöũøųúûüýþĸ").toList

/-- The upper half of `iso8859_11` from its first printing character on. -/
def iso8859Part11 : List Char :=
  ("\u00a0กขฃคฅฆงจฉชซฌญฎฏฐฑฒณดตถทธนบปผฝพฟภมยรฤลฦวศษสหฬอฮฯ" ++
    "ะัาำิีึื\u0e38\u0e39\u0e3a\ufffd\ufffd\ufffd\ufffd฿เแโใไๅๆ็\u0e48\u0e49\u0e4a\u0e4b์ํ๎๏" ++
    "๐๑๒๓๔๕๖๗๘๙๚๛\ufffd\ufffd\ufffd\ufffd").toList

/-- The upper half of `iso8859_13` from its first printing character on. -/
def iso8859Part13 : List Char :=
  ("\u00a0”¢£¤„¦§Ø©Ŗ«¬\u00ad®Æ°±²³“µ¶·ø¹ŗ»¼½¾æĄĮĀĆÄÅĘĒČÉŹĖĢĶĪĻŠŃŅÓŌÕÖ×ŲŁŚŪÜŻŽß" ++
    "ąįāćäåęēčéźėģķīļšńņóōõö÷ųłśūüżž’").toList

/-- The upper half of `iso8859_14` from its first printing character on. -/
def iso8859Part14 : List Char :=
  ("\u00a0Ḃḃ£ĊċḊ§Ẁ©ẂḋỲ\u00ad®ŸḞḟĠġṀṁ¶ṖẁṗẃṠỳẄẅṡÀÁÂÃÄÅÆÇÈÉÊËÌÍÎÏŴÑÒÓÔÕÖṪØÙÚÛÜÝŶß" ++
    "àáâãäåæçèéêëìíîïŵñòóôõöṫøùúûüýŷÿ").toList

/-- The upper half of `iso8859_15` from its first printing character on. -/
def iso8859Part15 : List Char :=
  ("\u00a0¡¢£€¥Š§š©ª«¬\u00ad®¯°±²³Žµ¶·ž¹º»ŒœŸ¿ÀÁÂÃÄÅÆÇÈÉÊËÌÍÎÏÐÑÒÓÔÕÖ×ØÙÚÛÜÝÞß" ++
    "àáâãäåæçèéêëìíîïðñòóôõö÷øùúûüýþÿ").toList

/-- The upper half of `iso8859_16` from its first printing character on. -/
def iso8859Part16 : List Char :=
  ("\u00a0ĄąŁ€„Š§š©Ș«Ź\u00adźŻ°±ČłŽ”¶·žčș»ŒœŸżÀÁÂĂÄĆÆÇÈÉÊËÌÍÎÏĐŃÒÓÔŐÖŚŰÙÚÛÜĘȚß" ++
    "àáâăäćæçèéêëìíîïđńòóôőöśűùúûüęțÿ").toList

end Introspection.Text
