import ContractVerifier.Charset.Basic
import ContractVerifier.Charset.Chinese.Basic
import ContractVerifier.Charset.Escapes
import ContractVerifier.Charset.Korean.Basic
import ContractVerifier.Charset.Page.Dos
import ContractVerifier.Charset.Page.Ebcdic
import ContractVerifier.Charset.Page.Iso
import ContractVerifier.Charset.Page.Macintosh
import ContractVerifier.Charset.Page.Regional
import ContractVerifier.Charset.Page.Windows
import ContractVerifier.Charset.Utf7

set_option autoImplicit false

/-! # Labels of character sets

The names under which character sets are known. Of each, the name proper comes first. A label
is compared in small letters, with one hyphen for whatever stands between letters and digits;
points count as such, but in the place of a hyphen one is overlooked in all but names proper.

Main definition: `Charset.ofLabel?`.
-/

namespace ContractVerifier.Charset

/-- The character sets that have all characters. -/
def unicodeLabels : List (String × Charset) :=
  [("utf-8 cp65001 u8 utf utf8 utf8-ucs2 utf8-ucs4", .unicode .utf8),
   ("utf-8-sig", .unicode .utf8Marked),
   ("utf-16 u16 utf16", .unicode .utf16Marked),
   ("utf-16-le unicodelittleunmarked utf-16le", .unicode (.utf16 .little)),
   ("utf-16-be unicodebigunmarked utf-16be", .unicode (.utf16 .big)),
   ("utf-32 u32 utf32", .unicode .utf32Marked),
   ("utf-32-le utf-32le", .unicode (.utf32 .little)),
   ("utf-32-be utf-32be", .unicode (.utf32 .big)),
   ("utf-7 u7 unicode-1-1-utf-7 utf7", .rules Utf7.read),
   ("unicode-escape", .rules Escapes.read),
   ("raw-unicode-escape", .rules Escapes.readRaw)]

/-- The Japanese character sets. -/
def japaneseLabels : List (String × Charset) :=
  [("shift-jis csshiftjis s-jis shiftjis sjis x-mac-japanese", .rules readShiftJis),
   ("cp932 932 ms932 ms-kanji mskanji", .rules readCp932),
   ("shift-jisx0213 s-jisx0213 shiftjisx0213 sjisx0213", .rules (readShift0213 .of2000)),
   ("shift-jis-2004 s-jis-2004 shiftjis2004 sjis-2004", .rules (readShift0213 .of2004)),
   ("euc-jp eucjp u-jis ujis", .rules readEucJp),
   ("euc-jisx0213 eucjisx0213", .rules (readEuc0213 .of2000)),
   ("euc-jis-2004 euc-jis2004 eucjis2004 jisx0213", .rules (readEuc0213 .of2004)),
   ("iso2022-jp csiso2022jp iso2022jp iso-2022-jp", .designated .japanese),
   ("iso2022-jp-1 iso2022jp-1 iso-2022-jp-1", .designated .japanese1),
   ("iso2022-jp-2 iso2022jp-2 iso-2022-jp-2", .designated .japanese2),
   ("iso2022-jp-3 iso2022jp-3 iso-2022-jp-3", .designated .japanese3),
   ("iso2022-jp-2004 iso2022jp-2004 iso-2022-jp-2004", .designated .japanese2004),
   ("iso2022-jp-ext iso2022jp-ext iso-2022-jp-ext", .designated .japaneseExtended)]

/-- The Korean character sets. -/
def koreanLabels : List (String × Charset) :=
  [("euc-kr euckr korean ks-c-5601 ks-c-5601-1987 ks-x-1001 ksc5601 ksx1001 x-mac-korean",
    .rules readEucKr),
   ("cp949 949 ms949 uhc", .rules readCp949),
   ("johab cp1361 ms1361", .rules readJohab),
   ("iso2022-kr csiso2022kr iso2022kr iso-2022-kr", .designated .korean)]

/-- The Chinese character sets. -/
def chineseLabels : List (String × Charset) :=
  [("gb2312 chinese csiso58gb231280 euc-cn euccn eucgb2312-cn gb2312-1980 gb2312-80
      iso-ir-58 x-mac-simp-chinese", .rules readGb2312),
   ("gbk 936 cp936 ms936", .rules readGbk),
   ("gb18030 gb18030-2000", .rules readGb18030),
   ("hz hz-gb hz-gb-2312 hzgb", .rules readHz),
   ("big5 big5-tw csbig5 x-mac-trad-chinese", .rules readBig5),
   ("cp950 950 ms950", .rules readCp950),
   ("big5hkscs big5-hkscs hkscs", .rules readHongKong)]

/-- What is called like a character set, and is something else. -/
def specialLabels : List (String × Charset) :=
  [("punycode", .punycode),
   ("idna", .hostName),
   ("undefined", .undefined),
   ("base64-codec base64 base-64", .otherBytes),
   ("bz2-codec bz2", .otherBytes),
   ("hex-codec hex", .otherBytes),
   ("quopri-codec quopri quoted-printable quotedprintable", .otherBytes),
   ("uu-codec uu", .otherBytes),
   ("zlib-codec zip zlib", .otherBytes),
   ("rot-13 rot13", .rotation)]

/-- ASCII, and the character set whose numbers are those of the characters. -/
def latinLabels : List (String × Charset) :=
  [("ascii 646 ansi-x3.4-1968 ansi-x3.4-1986 ansi-x3-4-1968 cp367 csascii ibm367 iso646-us
      iso-646.irv-1991 iso-ir-6 us us-ascii", .rules readAscii),
   ("latin-1 8859 cp819 csisolatin1 ibm819 iso8859 iso8859-1 iso-8859-1 iso-8859-1-1987
      iso-ir-100 l1 latin latin1 charmap", .rules readLatin)]

/-- The character sets of the ISO. -/
def isoLabels : List (String × Charset) :=
  [("iso8859-2 csisolatin2 iso-8859-2 iso-8859-2-1987 iso-ir-101 l2 latin2", ofPage .iso88592),
   ("iso8859-3 csisolatin3 iso-8859-3 iso-8859-3-1988 iso-ir-109 l3 latin3", ofPage .iso88593),
   ("iso8859-4 csisolatin4 iso-8859-4 iso-8859-4-1988 iso-ir-110 l4 latin4", ofPage .iso88594),
   ("iso8859-5 csisolatincyrillic cyrillic iso-8859-5 iso-8859-5-1988 iso-ir-144",
    ofPage .iso88595),
   ("iso8859-6 arabic asmo-708 csisolatinarabic ecma-114 iso-8859-6 iso-8859-6-1987
      iso-ir-127", ofPage .iso88596),
   ("iso8859-7 csisolatingreek ecma-118 elot-928 greek greek8 iso-8859-7 iso-8859-7-1987
      iso-ir-126", ofPage .iso88597),
   ("iso8859-8 csisolatinhebrew hebrew iso-8859-8 iso-8859-8-1988 iso-ir-138", ofPage .iso88598),
   ("iso8859-9 csisolatin5 iso-8859-9 iso-8859-9-1989 iso-ir-148 l5 latin5", ofPage .iso88599),
   ("iso8859-10 csisolatin6 iso-8859-10 iso-8859-10-1992 iso-ir-157 l6 latin6",
    ofPage .iso885910),
   ("iso8859-11 iso-8859-11 iso-8859-11-2001 thai", ofPage .iso885911),
   ("iso8859-13 iso-8859-13 l7 latin7", ofPage .iso885913),
   ("iso8859-14 iso-8859-14 iso-8859-14-1998 iso-celtic iso-ir-199 l8 latin8", ofPage .iso885914),
   ("iso8859-15 iso-8859-15 l9 latin9", ofPage .iso885915),
   ("iso8859-16 iso-8859-16 iso-8859-16-2001 iso-ir-226 l10 latin10", ofPage .iso885916)]

/-- The character sets of Windows. -/
def windowsLabels : List (String × Charset) :=
  [("cp1250 1250 windows-1250", ofPage .cp1250),
   ("cp1251 1251 windows-1251", ofPage .cp1251),
   ("cp1252 1252 windows-1252", ofPage .cp1252),
   ("cp1253 1253 windows-1253", ofPage .cp1253),
   ("cp1254 1254 windows-1254", ofPage .cp1254),
   ("cp1255 1255 windows-1255", ofPage .cp1255),
   ("cp1256 1256 windows-1256", ofPage .cp1256),
   ("cp1257 1257 windows-1257", ofPage .cp1257),
   ("cp1258 1258 windows-1258", ofPage .cp1258),
   ("cp874", ofPage .cp874)]

/-- The character sets of DOS. -/
def dosLabels : List (String × Charset) :=
  [("cp437 437 cspc8codepage437 ibm437", ofPage .cp437),
   ("cp720", ofPage .cp720),
   ("cp737", ofPage .cp737),
   ("cp775 775 cspc775baltic ibm775", ofPage .cp775),
   ("cp850 850 cspc850multilingual ibm850", ofPage .cp850),
   ("cp852 852 cspcp852 ibm852", ofPage .cp852),
   ("cp855 855 csibm855 ibm855", ofPage .cp855),
   ("cp856", ofPage .cp856),
   ("cp857 857 csibm857 ibm857", ofPage .cp857),
   ("cp858 858 csibm858 ibm858", ofPage .cp858),
   ("cp860 860 csibm860 ibm860", ofPage .cp860),
   ("cp861 861 cp-is csibm861 ibm861", ofPage .cp861),
   ("cp862 862 cspc862latinhebrew ibm862", ofPage .cp862),
   ("cp863 863 csibm863 ibm863", ofPage .cp863),
   ("cp864 864 csibm864 ibm864", ofPage .cp864),
   ("cp865 865 csibm865 ibm865", ofPage .cp865),
   ("cp866 866 csibm866 ibm866", ofPage .cp866),
   ("cp869 869 cp-gr csibm869 ibm869", ofPage .cp869),
   ("cp1006", ofPage .cp1006),
   ("cp1125 1125 cp866u ibm1125 ruscii", ofPage .cp1125)]

/-- The character sets of the Macintosh. -/
def macintoshLabels : List (String × Charset) :=
  [("mac-arabic", ofPage .macintoshArabic),
   ("mac-croatian", ofPage .macintoshCroatian),
   ("mac-cyrillic maccyrillic", ofPage .macintoshCyrillic),
   ("mac-farsi", ofPage .macintoshFarsi),
   ("mac-greek macgreek", ofPage .macintoshGreek),
   ("mac-iceland maciceland", ofPage .macintoshIceland),
   ("mac-latin2 mac-centeuro maccentraleurope maclatin2", ofPage .macintoshLatin2),
   ("mac-roman macintosh macroman", ofPage .macintoshRoman),
   ("mac-romanian", ofPage .macintoshRomanian),
   ("mac-turkish macturkish", ofPage .macintoshTurkish)]

/-- The character sets that do not contain ASCII. -/
def ebcdicLabels : List (String × Charset) :=
  [("cp037 037 csibm037 ebcdic-cp-ca ebcdic-cp-nl ebcdic-cp-us ebcdic-cp-wt ibm037 ibm039",
    ofPage .cp037),
   ("cp273 273 csibm273 ibm273", ofPage .cp273),
   ("cp424 424 csibm424 ebcdic-cp-he ibm424", ofPage .cp424),
   ("cp500 500 csibm500 ebcdic-cp-be ebcdic-cp-ch ibm500", ofPage .cp500),
   ("cp875", ofPage .cp875),
   ("cp1026 1026 csibm1026 ibm1026", ofPage .cp1026),
   ("cp1140 1140 ibm1140", ofPage .cp1140)]

/-- The character sets of single countries and devices. -/
def regionalLabels : List (String × Charset) :=
  [("hp-roman8 cp1051 ibm1051 r8 roman8", ofPage .hpRoman8),
   ("koi8-r cskoi8r", ofPage .koi8R),
   ("koi8-t", ofPage .koi8T),
   ("koi8-u", ofPage .koi8U),
   ("kz1048 kz-1048 rk1048 strk1048-2002", ofPage .kz1048),
   ("palmos", ofPage .palmos),
   ("ptcp154 cp154 csptcp154 cyrillic-asian pt154", ofPage .ptcp154),
   ("tis-620 iso-ir-166 tis620 tis-620-0 tis-620-2529-0 tis-620-2529-1", ofPage .tis620)]

/-- All labels, with blanks between, and what they stand for. -/
def labels : List (String × Charset) :=
  unicodeLabels ++ latinLabels ++ isoLabels ++ windowsLabels ++ dosLabels ++ macintoshLabels ++
    ebcdicLabels ++ regionalLabels ++ japaneseLabels ++ koreanLabels ++ chineseLabels ++
    specialLabels

/-- Where the making of a plain label stands: its characters so far, last first, and whether
something else came behind them. -/
structure Plain where
  done : Text := []
  isGap : Bool := false

/-- Takes one character of a label. -/
def Plain.step (s : Plain) (c : Char) : Plain :=
  if c.isAlphanum || c = '.' then
    { done := c.toLower :: (if s.isGap && !s.done.isEmpty then '-' :: s.done else s.done) }
  else { s with isGap := true }

/-- A label in the form in which labels are compared. -/
def plain (label : Text) : Text := (label.foldl Plain.step {}).done.reverse

/-- Whether a label in plain form is one of those given. -/
def isAmong (labels : String) (label : Text) : Bool :=
  match Table.words labels with
  | name :: others =>
    others.contains label || others.contains (label.map fun c => if c = '.' then '-' else c) ||
      (label == name && !label.contains '.')
  | [] => false

/-- The character set with a label, if there is one. -/
def ofLabel? (label : Text) : Option Charset :=
  let label := plain label
  (labels.find? fun p => isAmong p.1 label).map (·.2)

example : plain "ISO_8859 -1".toList = "iso-8859-1".toList := by decide

end ContractVerifier.Charset
