/-!
# Data on the names of Unicode properties

The names and abbreviations of the properties, and of the values of properties, that a regular
expression may name.
-/

namespace ContentBlocker.Regex

/-- Properties that hold or do not hold. -/
def binaryNames : String :=
  "ASCII_Hex_Digit AHex Alphabetic Alpha Bidi_Control Bidi_C Bidi_Mirrored Bidi_M
   Case_Ignorable CI Cased Changes_When_Casefolded CWCF Changes_When_Casemapped CWCM
   Changes_When_Lowercased CWL Changes_When_Titlecased CWT Changes_When_Uppercased CWU Dash
   Default_Ignorable_Code_Point DI Deprecated Dep Diacritic Dia Emoji Emoji_Component EComp
   Emoji_Modifier EMod Emoji_Modifier_Base EBase Emoji_Presentation EPres
   Extended_Pictographic ExtPict Extender Ext Grapheme_Base Gr_Base Grapheme_Extend Gr_Ext
   Grapheme_Link Hex_Digit Hex Hyphen IDS_Binary_Operator IDSB IDS_Trinary_Operator IDST
   ID_Continue IDC ID_Start IDS Ideographic Ideo Join_Control Join_C Logical_Order_Exception
   LOE Lowercase Lower Math Noncharacter_Code_Point NChar Other_Alphabetic
   Other_Default_Ignorable_Code_Point Other_Grapheme_Extend Other_ID_Continue Other_ID_Start
   Other_Lowercase Other_Math Other_Uppercase Pattern_Syntax Pat_Syn Pattern_White_Space
   Pat_WS Prepended_Concatenation_Mark PCM Quotation_Mark QMark Radical Regional_Indicator RI
   Sentence_Terminal STerm Soft_Dotted SD Terminal_Punctuation Term Unified_Ideograph UIdeo
   Uppercase Upper Variation_Selector VS White_Space WSpace Space XID_Continue XIDC XID_Start
   XIDS Gr_Link OAlpha ODI OGr_Ext OIDC OIDS OLower OMath OUpper IDSU IDS_Unary_Operator
   ID_Compat_Math_Start ID_Compat_Math_Continue MCM Modifier_Combining_Mark"

/-- General categories. -/
def categoryNames : String :=
  "C Other Cc Control Cntrl Cf Format Cn Unassigned Co Private_Use L Letter LC Cased_Letter Ll
   Lowercase_Letter Lm Modifier_Letter Lo Other_Letter Lt Titlecase_Letter Lu Uppercase_Letter
   M Mark Combining_Mark Mc Spacing_Mark Me Enclosing_Mark Mn Nonspacing_Mark N Number Nd
   Decimal_Number Digit Nl Letter_Number No Other_Number P Punctuation Punct Pc
   Connector_Punctuation Pd Dash_Punctuation Pe Close_Punctuation Pf Final_Punctuation Pi
   Initial_Punctuation Po Other_Punctuation Ps Open_Punctuation S Symbol Sc Currency_Symbol Sk
   Modifier_Symbol Sm Math_Symbol So Other_Symbol Z Separator Zl Line_Separator Zp
   Paragraph_Separator Zs Space_Separator Any Assigned ASCII"

/-- Scripts. -/
def scriptNames : String :=
  "Adlm Adlam Aghb Caucasian_Albanian Ahom Arab Arabic Armi Imperial_Aramaic Armn Armenian
   Avst Avestan Bali Balinese Bamu Bamum Bass Bassa_Vah Batk Batak Beng Bengali Bhks Bhaiksuki
   Bopo Bopomofo Brah Brahmi Brai Braille Bugi Buginese Buhd Buhid Cakm Chakma Cans
   Canadian_Aboriginal Cari Carian Cham Cher Cherokee Chrs Chorasmian Copt Coptic Qaac Cpmn
   Cypro_Minoan Cprt Cypriot Cyrl Cyrillic Deva Devanagari Diak Dives_Akuru Dogr Dogra Dsrt
   Deseret Dupl Duployan Egyp Egyptian_Hieroglyphs Elba Elbasan Elym Elymaic Ethi Ethiopic
   Geor Georgian Glag Glagolitic Gong Gunjala_Gondi Gonm Masaram_Gondi Goth Gothic Gran
   Grantha Grek Greek Gujr Gujarati Guru Gurmukhi Hang Hangul Hani Han Hano Hanunoo Hatr
   Hatran Hebr Hebrew Hira Hiragana Hluw Anatolian_Hieroglyphs Hmng Pahawh_Hmong Hmnp
   Nyiakeng_Puachue_Hmong Hung Old_Hungarian Ital Old_Italic Java Javanese Kali Kayah_Li Kana
   Katakana Kawi Khar Kharoshthi Khmr Khmer Khoj Khojki Kits Khitan_Small_Script Knda Kannada
   Kthi Kaithi Lana Tai_Tham Laoo Lao Latn Latin Lepc Lepcha Limb Limbu Lina Linear_A Linb
   Linear_B Lisu Lyci Lycian Lydi Lydian Mahj Mahajani Maka Makasar Mand Mandaic Mani
   Manichaean Marc Marchen Medf Medefaidrin Mend Mende_Kikakui Merc Meroitic_Cursive Mero
   Meroitic_Hieroglyphs Mlym Malayalam Modi Mong Mongolian Mroo Mro Mtei Meetei_Mayek Mult
   Multani Mymr Myanmar Nagm Nag_Mundari Nand Nandinagari Narb Old_North_Arabian Nbat
   Nabataean Newa Nkoo Nko Nshu Nushu Ogam Ogham Olck Ol_Chiki Orkh Old_Turkic Orya Oriya Osge
   Osage Osma Osmanya Ougr Old_Uyghur Palm Palmyrene Pauc Pau_Cin_Hau Perm Old_Permic Phag
   Phags_Pa Phli Inscriptional_Pahlavi Phlp Psalter_Pahlavi Phnx Phoenician Plrd Miao Prti
   Inscriptional_Parthian Rjng Rejang Rohg Hanifi_Rohingya Runr Runic Samr Samaritan Sarb
   Old_South_Arabian Saur Saurashtra Sgnw SignWriting Shaw Shavian Shrd Sharada Sidd Siddham
   Sind Khudawadi Sinh Sinhala Sogd Sogdian Sogo Old_Sogdian Sora Sora_Sompeng Soyo Soyombo
   Sund Sundanese Sylo Syloti_Nagri Syrc Syriac Tagb Tagbanwa Takr Takri Tale Tai_Le Talu
   New_Tai_Lue Taml Tamil Tang Tangut Tavt Tai_Viet Telu Telugu Tfng Tifinagh Tglg Tagalog
   Thaa Thaana Thai Tibt Tibetan Tirh Tirhuta Tnsa Tangsa Toto Ugar Ugaritic Vaii Vai Vith
   Vithkuqi Wara Warang_Citi Wcho Wancho Xpeo Old_Persian Xsux Cuneiform Yezi Yezidi Yiii Yi
   Zanb Zanabazar_Square Zinh Inherited Qaai Zyyy Common Gara Garay Gukh Gurung_Khema Krai
   Kirat_Rai Onao Ol_Onal Sunu Sunuwar Todr Todhri Tutg Tulu_Tigalari"

/-- Versions of the character set. -/
def ageNames : String :=
  "1.1 V1_1 10.0 V10_0 11.0 V11_0 12.0 V12_0 12.1 V12_1 13.0 V13_0 14.0 V14_0 15.0 V15_0 2.0
   V2_0 2.1 V2_1 3.0 V3_0 3.1 V3_1 3.2 V3_2 4.0 V4_0 4.1 V4_1 5.0 V5_0 5.1 V5_1 5.2 V5_2 6.0
   V6_0 6.1 V6_1 6.2 V6_2 6.3 V6_3 7.0 V7_0 8.0 V8_0 9.0 V9_0 15.1 V15_1 16.0 V16_0"

/-- Values of Grapheme_Cluster_Break. -/
def graphemeBreakNames : String :=
  "CN Control CR EX Extend L LF LV LVT PP Prepend RI Regional_Indicator SM SpacingMark T V ZWJ"

/-- Values of Sentence_Break. -/
def sentenceBreakNames : String :=
  "AT ATerm CL Close CR EX Extend FO Format LE OLetter LF LO Lower NU Numeric SC SContinue SE
   Sep SP Sp ST STerm UP Upper"

/-- Values of Word_Break. -/
def wordBreakNames : String :=
  "CR DQ Double_Quote EX ExtendNumLet Extend FO Format HL Hebrew_Letter KA Katakana LE ALetter
   LF MB MidNumLet ML MidLetter MN MidNum NL Newline NU Numeric RI Regional_Indicator SQ
   Single_Quote WSegSpace ZWJ"

end ContentBlocker.Regex
