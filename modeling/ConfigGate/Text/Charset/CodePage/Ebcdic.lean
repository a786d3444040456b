import ConfigGate.Text.Charset.CodePage

namespace ConfigGate.Text.Charset.CodePage

/-- The code pages of mainframes, in which the letters and digits have places of their own. -/
def ebcdic : List CodePage := [
  { name := "cp037"
    aliases := ["037", "csibm037", "ebcdic_cp_ca", "ebcdic_cp_nl", "ebcdic_cp_us", "ebcdic_cp_wt",
      "ibm037", "ibm039"]
    low := 
      "\x00\x01\x02\x03\x9c\x09\x86\x7f\x97\x8d\x8e\x0b\x0c\x0d\x0e\x0f\x10\x11\x12\x13\x9d" ++
      "\x85\x08\x87\x18\x19\x92\x8f\x1c\x1d\x1e\x1f\x80\x81\x82\x83\x84\x0a\x17\x1b\x88\x89" ++
      "\x8a\x8b\x8c\x05\x06\x07\x90\x91\x16\x93\x94\x95\x96\x04\x98\x99\x9a\x9b\x14\x15\x9e" ++
      "\x1a \u00a0âäàáãåçñ¢\x2e\x3c\x28\x2b\x7c\x26éêëèíîïìß\x21\x24\x2a\x29\x3b¬\x2d\x2fÂÄÀÁÃ" ++
      "ÅÇÑ¦\x2c\x25\x5f\x3e\x3føÉÊËÈÍÎÏÌ\x60\x3a\x23\x40\x27\x3d\x22"
    high :=
      "Øabcdefghi«»ðýþ±°jklmnopqrªºæ¸Æ¤µ\x7estuvwxyz¡¿ÐÝÞ®\x5e£¥·©§¶¼½¾\x5b\x5d¯¨´×\x7bABCDEFG" ++
      "HI\u00adôöòóõ\x7dJKLMNOPQR¹ûüùúÿ\x5c÷STUVWXYZ²ÔÖÒÓÕ0123456789³ÛÜÙÚ\x9f" },
  { name := "cp273"
    aliases := ["273", "ibm273", "csibm273"]
    low := 
      "\x00\x01\x02\x03\x9c\x09\x86\x7f\x97\x8d\x8e\x0b\x0c\x0d\x0e\x0f\x10\x11\x12\x13\x9d" ++
      "\x85\x08\x87\x18\x19\x92\x8f\x1c\x1d\x1e\x1f\x80\x81\x82\x83\x84\x0a\x17\x1b\x88\x89" ++
      "\x8a\x8b\x8c\x05\x06\x07\x90\x91\x16\x93\x94\x95\x96\x04\x98\x99\x9a\x9b\x14\x15\x9e" ++
      "\x1a \u00a0â\x7bàáãåçñÄ\x2e\x3c\x28\x2b\x21\x26éêëèíîïì\x7eÜ\x24\x2a\x29\x3b\x5e\x2d" ++
      "\x2fÂ\x5bÀÁÃÅÇÑö\x2c\x25\x5f\x3e\x3føÉÊËÈÍÎÏÌ\x60\x3a\x23§\x27\x3d\x22"
    high :=
      "Øabcdefghi«»ðýþ±°jklmnopqrªºæ¸Æ¤µßstuvwxyz¡¿ÐÝÞ®¢£¥·©\x40¶¼½¾¬\x7c‾¨´×äABCDEFGHI\u00adô" ++
      "¦òóõüJKLMNOPQR¹û\x7dùúÿÖ÷STUVWXYZ²Ô\x5cÒÓÕ0123456789³Û\x5dÙÚ\x9f" },
  { name := "cp424"
    aliases := ["424", "csibm424", "ebcdic_cp_he", "ibm424"]
    low := 
      "\x00\x01\x02\x03\x9c\x09\x86\x7f\x97\x8d\x8e\x0b\x0c\x0d\x0e\x0f\x10\x11\x12\x13\x9d" ++
      "\x85\x08\x87\x18\x19\x92\x8f\x1c\x1d\x1e\x1f\x80\x81\x82\x83\x84\x0a\x17\x1b\x88\x89" ++
      "\x8a\x8b\x8c\x05\x06\x07\x90\x91\x16\x93\x94\x95\x96\x04\x98\x99\x9a\x9b\x14\x15\x9e" ++
      "\x1a \u05d0\u05d1\u05d2\u05d3\u05d4\u05d5\u05d6\u05d7\u05d8¢\x2e\x3c\x28\x2b\x7c\x26" ++
      "\u05d9\u05da\u05db\u05dc\u05dd\u05de\u05df\u05e0\u05e1\x21\x24\x2a\x29\x3b¬\x2d\x2f" ++
      "\u05e2\u05e3\u05e4\u05e5\u05e6\u05e7\u05e8\u05e9¦\x2c\x25\x5f\x3e\x3f\ufffd\u05ea\ufffd" ++
      "\ufffd\u00a0\ufffd\ufffd\ufffd‗\x60\x3a\x23\x40\x27\x3d\x22"
    high :=
      "\ufffdabcdefghi«»\ufffd\ufffd\ufffd±°jklmnopqr\ufffd\ufffd\ufffd¸\ufffd¤µ\x7estuvwxyz" ++
      "\ufffd\ufffd\ufffd\ufffd\ufffd®\x5e£¥·©§¶¼½¾\x5b\x5d¯¨´×\x7bABCDEFGHI\u00ad\ufffd\ufffd" ++
      "\ufffd\ufffd\ufffd\x7dJKLMNOPQR¹\ufffd\ufffd\ufffd\ufffd\ufffd\x5c÷STUVWXYZ²\ufffd" ++
      "\ufffd\ufffd\ufffd\ufffd0123456789³\ufffd\ufffd\ufffd\ufffd\x9f" },
  { name := "cp500"
    aliases := ["500", "csibm500", "ebcdic_cp_be", "ebcdic_cp_ch", "ibm500"]
    low := 
      "\x00\x01\x02\x03\x9c\x09\x86\x7f\x97\x8d\x8e\x0b\x0c\x0d\x0e\x0f\x10\x11\x12\x13\x9d" ++
      "\x85\x08\x87\x18\x19\x92\x8f\x1c\x1d\x1e\x1f\x80\x81\x82\x83\x84\x0a\x17\x1b\x88\x89" ++
      "\x8a\x8b\x8c\x05\x06\x07\x90\x91\x16\x93\x94\x95\x96\x04\x98\x99\x9a\x9b\x14\x15\x9e" ++
      "\x1a \u00a0âäàáãåçñ\x5b\x2e\x3c\x28\x2b\x21\x26éêëèíîïìß\x5d\x24\x2a\x29\x3b\x5e\x2d" ++
      "\x2fÂÄÀÁÃÅÇÑ¦\x2c\x25\x5f\x3e\x3føÉÊËÈÍÎÏÌ\x60\x3a\x23\x40\x27\x3d\x22"
    high :=
      "Øabcdefghi«»ðýþ±°jklmnopqrªºæ¸Æ¤µ\x7estuvwxyz¡¿ÐÝÞ®¢£¥·©§¶¼½¾¬\x7c¯¨´×\x7bABCDEFGHI" ++
      "\u00adôöòóõ\x7dJKLMNOPQR¹ûüùúÿ\x5c÷STUVWXYZ²ÔÖÒÓÕ0123456789³ÛÜÙÚ\x9f" },
  { name := "cp875"
    aliases := []
    low := 
      "\x00\x01\x02\x03\x9c\x09\x86\x7f\x97\x8d\x8e\x0b\x0c\x0d\x0e\x0f\x10\x11\x12\x13\x9d" ++
      "\x85\x08\x87\x18\x19\x92\x8f\x1c\x1d\x1e\x1f\x80\x81\x82\x83\x84\x0a\x17\x1b\x88\x89" ++
      "\x8a\x8b\x8c\x05\x06\x07\x90\x91\x16\x93\x94\x95\x96\x04\x98\x99\x9a\x9b\x14\x15\x9e" ++
      "\x1a ΑΒΓΔΕΖΗΘΙ\x5b\x2e\x3c\x28\x2b\x21\x26ΚΛΜΝΞΟΠΡΣ\x5d\x24\x2a\x29\x3b\x5e\x2d\x2fΤΥΦΧ" ++
      "ΨΩΪΫ\x7c\x2c\x25\x5f\x3e\x3f¨ΆΈΉ\u00a0ΊΌΎΏ\x60\x3a\x23\x40\x27\x3d\x22"
    high :=
      "΅abcdefghiαβγδεζ°jklmnopqrηθικλμ´\x7estuvwxyzνξοπρσ£άέήϊίόύϋώςτυφχψ\x7bABCDEFGHI\u00adω" ++
      "ΐΰ‘―\x7dJKLMNOPQR±½\x1a·’¦\x5c\x1aSTUVWXYZ²§\x1a\x1a«¬0123456789³©\x1a\x1a»\x9f" },
  { name := "cp1026"
    aliases := ["1026", "csibm1026", "ibm1026"]
    low := 
      "\x00\x01\x02\x03\x9c\x09\x86\x7f\x97\x8d\x8e\x0b\x0c\x0d\x0e\x0f\x10\x11\x12\x13\x9d" ++
      "\x85\x08\x87\x18\x19\x92\x8f\x1c\x1d\x1e\x1f\x80\x81\x82\x83\x84\x0a\x17\x1b\x88\x89" ++
      "\x8a\x8b\x8c\x05\x06\x07\x90\x91\x16\x93\x94\x95\x96\x04\x98\x99\x9a\x9b\x14\x15\x9e" ++
      "\x1a \u00a0âäàáãå\x7bñÇ\x2e\x3c\x28\x2b\x21\x26éêëèíîïìßĞİ\x2a\x29\x3b\x5e\x2d\x2fÂÄÀÁÃ" ++
      "Å\x5bÑş\x2c\x25\x5f\x3e\x3føÉÊËÈÍÎÏÌı\x3aÖŞ\x27\x3dÜ"
    high :=
      "Øabcdefghi«»\x7d\x60¦±°jklmnopqrªºæ¸Æ¤µöstuvwxyz¡¿\x5d\x24\x40®¢£¥·©§¶¼½¾¬\x7c¯¨´×çABCD" ++
      "EFGHI\u00adô\x7eòóõğJKLMNOPQR¹û\x5cùúÿü÷STUVWXYZ²Ô\x23ÒÓÕ0123456789³Û\x22ÙÚ\x9f" },
  { name := "cp1140"
    aliases := ["1140", "ibm1140"]
    low := 
      "\x00\x01\x02\x03\x9c\x09\x86\x7f\x97\x8d\x8e\x0b\x0c\x0d\x0e\x0f\x10\x11\x12\x13\x9d" ++
      "\x85\x08\x87\x18\x19\x92\x8f\x1c\x1d\x1e\x1f\x80\x81\x82\x83\x84\x0a\x17\x1b\x88\x89" ++
      "\x8a\x8b\x8c\x05\x06\x07\x90\x91\x16\x93\x94\x95\x96\x04\x98\x99\x9a\x9b\x14\x15\x9e" ++
      "\x1a \u00a0âäàáãåçñ¢\x2e\x3c\x28\x2b\x7c\x26éêëèíîïìß\x21\x24\x2a\x29\x3b¬\x2d\x2fÂÄÀÁÃ" ++
      "ÅÇÑ¦\x2c\x25\x5f\x3e\x3føÉÊËÈÍÎÏÌ\x60\x3a\x23\x40\x27\x3d\x22"
    high :=
      "Øabcdefghi«»ðýþ±°jklmnopqrªºæ¸Æ€µ\x7estuvwxyz¡¿ÐÝÞ®\x5e£¥·©§¶¼½¾\x5b\x5d¯¨´×\x7bABCDEFG" ++
      "HI\u00adôöòóõ\x7dJKLMNOPQR¹ûüùúÿ\x5c÷STUVWXYZ²ÔÖÒÓÕ0123456789³ÛÜÙÚ\x9f" }]

end ConfigGate.Text.Charset.CodePage
