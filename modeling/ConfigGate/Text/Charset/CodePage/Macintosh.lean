import ConfigGate.Text.Charset.CodePage

namespace ConfigGate.Text.Charset.CodePage

/-- The code pages of the Macintosh for one script each. -/
def macintosh : List CodePage := [
  { name := "mac_arabic"
    aliases := []
    low := ascii
    high :=
      "Ä\u00a0ÇÉÑÖÜáàâä\u06ba«çéèêëí…îïñó»ôö÷úùûü \x21\x22\x23\x24٪\x26\x27\x28\x29\x2a\x2b،" ++
      "\x2d\x2e\x2f\u0660\u0661\u0662\u0663\u0664\u0665\u0666\u0667\u0668\u0669\x3a\u061b\x3c" ++
      "\x3d\x3e\u061f❊\u0621\u0622\u0623\u0624\u0625\u0626\u0627\u0628\u0629\u062a\u062b\u062c" ++
      "\u062d\u062e\u062f\u0630\u0631\u0632\u0633\u0634\u0635\u0636\u0637\u0638\u0639\u063a" ++
      "\x5b\x5c\x5d\x5e\x5f\u0640\u0641\u0642\u0643\u0644\u0645\u0646\u0647\u0648\u0649\u064a" ++
      "\u064b\u064c\u064d\u064e\u064f\u0650\u0651\u0652\u067e\u0679\u0686\u06d5\u06a4\u06af" ++
      "\u0688\u0691\x7b\x7c\x7d\u0698\u06d2" },
  { name := "mac_croatian"
    aliases := []
    low := ascii
    high :=
      "ÄÅÇÉÑÖÜáàâäãåçéèêëíìîïñóòôöõúùûü†°¢£§•¶ß®Š™´¨≠ŽØ∞±≤≥∆µ∂∑∏š∫ªºΩžø¿¡¬√ƒ≈Ć«Č…\u00a0ÀÃÕŒœĐ—" ++
      "“”‘’÷◊\uf8ff©⁄€‹›Æ»–·‚„‰ÂćÁčÈÍÎÏÌÓÔđÒÚÛÙıˆ˜¯πË˚¸Êæˇ" },
  { name := "mac_cyrillic"
    aliases := ["maccyrillic"]
    low := ascii
    high :=
      "АБВГДЕЖЗИЙКЛМНОПРСТУФХЦЧШЩЪЫЬЭЮЯ†°Ґ£§•¶І®©™Ђђ≠Ѓѓ∞±≤≥іµґЈЄєЇїЉљЊњјЅ¬√ƒ≈∆«»…\u00a0ЋћЌќѕ–—" ++
      "“”‘’÷„ЎўЏџ№Ёёяабвгдежзийклмнопрстуфхцчшщъыьэю€" },
  { name := "mac_farsi"
    aliases := []
    low := ascii
    high :=
      "Ä\u00a0ÇÉÑÖÜáàâä\u06ba«çéèêëí…îïñó»ôö÷úùûü \x21\x22\x23\x24٪\x26\x27\x28\x29\x2a\x2b،" ++
      "\x2d\x2e\x2f۰۱۲۳۴۵۶۷۸۹\x3a\u061b\x3c\x3d\x3e\u061f❊\u0621\u0622\u0623\u0624\u0625\u0626" ++
      "\u0627\u0628\u0629\u062a\u062b\u062c\u062d\u062e\u062f\u0630\u0631\u0632\u0633\u0634" ++
      "\u0635\u0636\u0637\u0638\u0639\u063a\x5b\x5c\x5d\x5e\x5f\u0640\u0641\u0642\u0643\u0644" ++
      "\u0645\u0646\u0647\u0648\u0649\u064a\u064b\u064c\u064d\u064e\u064f\u0650\u0651\u0652" ++
      "\u067e\u0679\u0686\u06d5\u06a4\u06af\u0688\u0691\x7b\x7c\x7d\u0698\u06d2" },
  { name := "mac_greek"
    aliases := ["macgreek"]
    low := ascii
    high :=
      "Ä¹²É³ÖÜ΅àâä΄¨çéèêë£™îï•½‰ôö¦€ùûü†ΓΔΘΛΞΠß®©ΣΪ§≠°·Α±≤≥¥ΒΕΖΗΙΚΜΦΫΨΩάΝ¬ΟΡ≈Τ«»…\u00a0ΥΧΆΈœ–―" ++
      "“”‘’÷ΉΊΌΎέήίόΏύαβψδεφγηιξκλμνοπώρστθωςχυζϊϋΐΰ\u00ad" },
  { name := "mac_iceland"
    aliases := ["maciceland"]
    low := ascii
    high :=
      "ÄÅÇÉÑÖÜáàâäãåçéèêëíìîïñóòôöõúùûüÝ°¢£§•¶ß®©™´¨≠ÆØ∞±≤≥¥µ∂∑∏π∫ªºΩæø¿¡¬√ƒ≈∆«»…\u00a0ÀÃÕŒœ–—" ++
      "“”‘’÷◊ÿŸ⁄€ÐðÞþý·‚„‰ÂÊÁËÈÍÎÏÌÓÔ\uf8ffÒÚÛÙıˆ˜¯˘˙˚¸˝˛ˇ" },
  { name := "mac_latin2"
    aliases := ["maccentraleurope", "mac_centeuro", "maclatin2"]
    low := ascii
    high :=
      "ÄĀāÉĄÖÜáąČäčĆćéŹźĎíďĒēĖóėôöõúĚěü†°Ę£§•¶ß®©™ę¨≠ģĮįĪ≤≥īĶ∂∑łĻļĽľĹĺŅņŃ¬√ńŇ∆«»…\u00a0ňŐÕőŌ–—" ++
      "“”‘’÷◊ōŔŕŘ‹›řŖŗŠ‚„šŚśÁŤťÍŽžŪÓÔūŮÚůŰűŲųÝýķŻŁżĢˇ" },
  { name := "mac_roman"
    aliases := ["macintosh", "macroman"]
    low := ascii
    high :=
      "ÄÅÇÉÑÖÜáàâäãåçéèêëíìîïñóòôöõúùûü†°¢£§•¶ß®©™´¨≠ÆØ∞±≤≥¥µ∂∑∏π∫ªºΩæø¿¡¬√ƒ≈∆«»…\u00a0ÀÃÕŒœ–—" ++
      "“”‘’÷◊ÿŸ⁄€‹›ﬁﬂ‡·‚„‰ÂÊÁËÈÍÎÏÌÓÔ\uf8ffÒÚÛÙıˆ˜¯˘˙˚¸˝˛ˇ" },
  { name := "mac_romanian"
    aliases := []
    low := ascii
    high :=
      "ÄÅÇÉÑÖÜáàâäãåçéèêëíìîïñóòôöõúùûü†°¢£§•¶ß®©™´¨≠ĂȘ∞±≤≥¥µ∂∑∏π∫ªºΩăș¿¡¬√ƒ≈∆«»…\u00a0ÀÃÕŒœ–—" ++
      "“”‘’÷◊ÿŸ⁄€‹›Țț‡·‚„‰ÂÊÁËÈÍÎÏÌÓÔ\uf8ffÒÚÛÙıˆ˜¯˘˙˚¸˝˛ˇ" },
  { name := "mac_turkish"
    aliases := ["macturkish"]
    low := ascii
    high :=
      "ÄÅÇÉÑÖÜáàâäãåçéèêëíìîïñóòôöõúùûü†°¢£§•¶ß®©™´¨≠ÆØ∞±≤≥¥µ∂∑∏π∫ªºΩæø¿¡¬√ƒ≈∆«»…\u00a0ÀÃÕŒœ–—" ++
      "“”‘’÷◊ÿŸĞğİıŞş‡·‚„‰ÂÊÁËÈÍÎÏÌÓÔ\uf8ffÒÚÛÙ\uf8a0ˆ˜¯˘˙˚¸˝˛ˇ" }]

end ConfigGate.Text.Charset.CodePage
