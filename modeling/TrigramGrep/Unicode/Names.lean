/-!
# Names of properties and of their values

A property, and a value of one, has a full name and shorter ones.  Each entry is the name that the
tables use and all spellings of it, reduced to what counts when names are compared (lower-case
letters and digits, see `Property.reduce`).  Properties that no class of a pattern can ask for are
listed, too: they are known, but have no values.
-/

namespace TrigramGrep.Unicode

/-- The properties of characters and the spellings of their names. -/
def propertyNames : List (String × String) := [
  ("kAccountingNumeric", "kaccountingnumeric cjkaccountingnumeric"),
  ("kOtherNumeric", "kothernumeric cjkothernumeric"),
  ("kPrimaryNumeric", "kprimarynumeric cjkprimarynumeric"),
  ("Numeric_Value", "numericvalue nv"),
  ("Case_Folding", "casefolding cf"),
  ("kCompatibilityVariant", "kcompatibilityvariant cjkcompatibilityvariant"),
  ("Decomposition_Mapping", "decompositionmapping dm"),
  ("FC_NFKC_Closure", "fcnfkcclosure fcnfkc"),
  ("Lowercase_Mapping", "lowercasemapping lc"),
  ("NFKC_Casefold", "nfkccasefold nfkccf"),
  ("NFKC_Simple_Casefold", "nfkcsimplecasefold nfkcscf"),
  ("Simple_Case_Folding", "simplecasefolding scf sfc"),
  ("Simple_Lowercase_Mapping", "simplelowercasemapping slc"),
  ("Simple_Titlecase_Mapping", "simpletitlecasemapping stc"),
  ("Simple_Uppercase_Mapping", "simpleuppercasemapping suc"),
  ("Titlecase_Mapping", "titlecasemapping tc"),
  ("Uppercase_Mapping", "uppercasemapping uc"),
  ("Bidi_Mirroring_Glyph", "bidimirroringglyph bmg"),
  ("Bidi_Paired_Bracket", "bidipairedbracket bpb"),
  ("kIICore", "kiicore cjkiicore"),
  ("kIRG_GSource", "kirggsource cjkirggsource"),
  ("kIRG_HSource", "kirghsource cjkirghsource"),
  ("kIRG_JSource", "kirgjsource cjkirgjsource"),
  ("kIRG_KPSource", "kirgkpsource cjkirgkpsource"),
  ("kIRG_KSource", "kirgksource cjkirgksource"),
  ("kIRG_MSource", "kirgmsource cjkirgmsource"),
  ("kIRG_SSource", "kirgssource cjkirgssource"),
  ("kIRG_TSource", "kirgtsource cjkirgtsource"),
  ("kIRG_UKSource", "kirguksource cjkirguksource"),
  ("kIRG_USource", "kirgusource cjkirgusource"),
  ("kIRG_VSource", "kirgvsource cjkirgvsource"),
  ("kRSUnicode", "krsunicode cjkrsunicode unicoderadicalstroke urs"),
  ("Equivalent_Unified_Ideograph", "equivalentunifiedideograph equideo"),
  ("ISO_Comment", "ocomment isc"),
  ("Jamo_Short_Name", "jamoshortname jsn"),
  ("Name", "name na"),
  ("Unicode_1_Name", "unicode1name na1"),
  ("Name_Alias", "namealias"),
  ("Script_Extensions", "scriptextensions scx"),
  ("Age", "age"),
  ("Block", "block blk"),
  ("Script", "script sc"),
  ("Bidi_Class", "bidiclass bc"),
  ("Bidi_Paired_Bracket_Type", "bidipairedbrackettype bpt"),
  ("Canonical_Combining_Class", "canonicalcombiningclass ccc"),
  ("Decomposition_Type", "decompositiontype dt"),
  ("East_Asian_Width", "eastasianwidth ea"),
  ("General_Category", "generalcategory gc"),
  ("Grapheme_Cluster_Break", "graphemeclusterbreak gcb"),
  ("Hangul_Syllable_Type", "hangulsyllabletype hst"),
  ("Indic_Conjunct_Break", "indicconjunctbreak incb"),
  ("Indic_Positional_Category", "indicpositionalcategory inpc"),
  ("Indic_Syllabic_Category", "indicsyllabiccategory insc"),
  ("Joining_Group", "joininggroup jg"),
  ("Joining_Type", "joiningtype jt"),
  ("Line_Break", "linebreak lb"),
  ("NFC_Quick_Check", "nfcquickcheck nfcqc"),
  ("NFD_Quick_Check", "nfdquickcheck nfdqc"),
  ("NFKC_Quick_Check", "nfkcquickcheck nfkcqc"),
  ("NFKD_Quick_Check", "nfkdquickcheck nfkdqc"),
  ("Numeric_Type", "numerictype nt"),
  ("Sentence_Break", "sentencebreak sb"),
  ("Vertical_Orientation", "verticalorientation vo"),
  ("Word_Break", "wordbreak wb"),
  ("ASCII_Hex_Digit", "asciihexdigit ahex"),
  ("Alphabetic", "alphabetic alpha"),
  ("Bidi_Control", "bidicontrol bidic"),
  ("Bidi_Mirrored", "bidimirrored bidim"),
  ("Cased", "cased"),
  ("Composition_Exclusion", "compositionexclusion ce"),
  ("Case_Ignorable", "caseignorable ci"),
  ("Full_Composition_Exclusion", "fullcompositionexclusion compex"),
  ("Changes_When_Casefolded", "changeswhencasefolded cwcf"),
  ("Changes_When_Casemapped", "changeswhencasemapped cwcm"),
  ("Changes_When_NFKC_Casefolded", "changeswhennfkccasefolded cwkcf"),
  ("Changes_When_Lowercased", "changeswhenlowercased cwl"),
  ("Changes_When_Titlecased", "changeswhentitlecased cwt"),
  ("Changes_When_Uppercased", "changeswhenuppercased cwu"),
  ("Dash", "dash"),
  ("Deprecated", "deprecated dep"),
  ("Default_Ignorable_Code_Point", "defaultignorablecodepoint di"),
  ("Diacritic", "diacritic dia"),
  ("Emoji_Modifier_Base", "emojimodifierbase ebase"),
  ("Emoji_Component", "emojicomponent ecomp"),
  ("Emoji_Modifier", "emojimodifier emod"),
  ("Emoji", "emoji"),
  ("Emoji_Presentation", "emojipresentation epres"),
  ("Extender", "extender ext"),
  ("Extended_Pictographic", "extendedpictographic extpict"),
  ("Grapheme_Base", "graphemebase grbase"),
  ("Grapheme_Extend", "graphemeextend grext"),
  ("Grapheme_Link", "graphemelink grlink"),
  ("Hex_Digit", "hexdigit hex"),
  ("Hyphen", "hyphen"),
  ("ID_Compat_Math_Continue", "idcompatmathcontinue"),
  ("ID_Compat_Math_Start", "idcompatmathstart"),
  ("ID_Continue", "idcontinue idc"),
  ("Ideographic", "ideographic ideo"),
  ("ID_Start", "idstart ids"),
  ("IDS_Binary_Operator", "idsbinaryoperator idsb"),
  ("IDS_Trinary_Operator", "idstrinaryoperator idst"),
  ("IDS_Unary_Operator", "idsunaryoperator idsu"),
  ("Join_Control", "joincontrol joinc"),
  ("Logical_Order_Exception", "logicalorderexception loe"),
  ("Lowercase", "lowercase lower"),
  ("Math", "math"),
  ("Modifier_Combining_Mark", "modifiercombiningmark mcm"),
  ("Noncharacter_Code_Point", "noncharactercodepoint nchar"),
  ("Other_Alphabetic", "otheralphabetic oalpha"),
  ("Other_Default_Ignorable_Code_Point", "otherdefaultignorablecodepoint odi"),
  ("Other_Grapheme_Extend", "othergraphemeextend ogrext"),
  ("Other_ID_Continue", "otheridcontinue oidc"),
  ("Other_ID_Start", "otheridstart oids"),
  ("Other_Lowercase", "otherlowercase olower"),
  ("Other_Math", "othermath omath"),
  ("Other_Uppercase", "otheruppercase oupper"),
  ("Pattern_Syntax", "patternsyntax patsyn"),
  ("Pattern_White_Space", "patternwhitespace patws"),
  ("Prepended_Concatenation_Mark", "prependedconcatenationmark pcm"),
  ("Quotation_Mark", "quotationmark qmark"),
  ("Radical", "radical"),
  ("Regional_Indicator", "regionalindicator ri"),
  ("Soft_Dotted", "softdotted sd"),
  ("Sentence_Terminal", "sentenceterminal sterm"),
  ("Terminal_Punctuation", "terminalpunctuation term"),
  ("Unified_Ideograph", "unifiedideograph uideo"),
  ("Uppercase", "uppercase upper"),
  ("Variation_Selector", "variationselector vs"),
  ("White_Space", "whitespace wspace space"),
  ("XID_Continue", "xidcontinue xidc"),
  ("XID_Start", "xidstart xids"),
  ("Expands_On_NFC", "expandsonnfc xonfc"),
  ("Expands_On_NFD", "expandsonnfd xonfd"),
  ("Expands_On_NFKC", "expandsonnfkc xonfkc"),
  ("Expands_On_NFKD", "expandsonnfkd xonfkd")]

/-- The general categories and groups of them, and the spellings of their names. -/
def categoryNames : List (String × String) := [
  ("C", "c other"),
  ("Cc", "cc control cntrl"),
  ("Cf", "cf format"),
  ("Cn", "cn unassigned"),
  ("Co", "co privateuse"),
  ("Cs", "cs surrogate"),
  ("L", "l letter"),
  ("LC", "lc casedletter"),
  ("Ll", "ll lowercaseletter"),
  ("Lm", "lm modifierletter"),
  ("Lo", "lo otherletter"),
  ("Lt", "lt titlecaseletter"),
  ("Lu", "lu uppercaseletter"),
  ("M", "m mark combiningmark"),
  ("Mc", "mc spacingmark"),
  ("Me", "me enclosingmark"),
  ("Mn", "mn nonspacingmark"),
  ("N", "n number"),
  ("Nd", "nd decimalnumber digit"),
  ("Nl", "nl letternumber"),
  ("No", "no othernumber"),
  ("P", "p punctuation punct"),
  ("Pc", "pc connectorpunctuation"),
  ("Pd", "pd dashpunctuation"),
  ("Pe", "pe closepunctuation"),
  ("Pf", "pf finalpunctuation"),
  ("Pi", "pi initialpunctuation"),
  ("Po", "po otherpunctuation"),
  ("Ps", "ps openpunctuation"),
  ("S", "s symbol"),
  ("Sc", "sc currencysymbol"),
  ("Sk", "sk modifiersymbol"),
  ("Sm", "sm mathsymbol"),
  ("So", "so othersymbol"),
  ("Z", "z separator"),
  ("Zl", "zl lineseparator"),
  ("Zp", "zp paragraphseparator"),
  ("Zs", "zs spaceseparator")]

/-- The scripts and the spellings of their names. -/
def scriptNames : List (String × String) := [
  ("Adlam", "adlam adlm"),
  ("Ahom", "ahom"),
  ("Anatolian_Hieroglyphs", "anatolianhieroglyphs hluw"),
  ("Arabic", "arabic arab"),
  ("Armenian", "armenian armn"),
  ("Avestan", "avestan avst"),
  ("Balinese", "balinese bali"),
  ("Bamum", "bamum bamu"),
  ("Bassa_Vah", "bassavah bass"),
  ("Batak", "batak batk"),
  ("Bengali", "bengali beng"),
  ("Bhaiksuki", "bhaiksuki bhks"),
  ("Bopomofo", "bopomofo bopo"),
  ("Brahmi", "brahmi brah"),
  ("Braille", "braille brai"),
  ("Buginese", "buginese bugi"),
  ("Buhid", "buhid buhd"),
  ("Canadian_Aboriginal", "canadianaboriginal cans"),
  ("Carian", "carian cari"),
  ("Caucasian_Albanian", "caucasianalbanian aghb"),
  ("Chakma", "chakma cakm"),
  ("Cham", "cham"),
  ("Cherokee", "cherokee cher"),
  ("Chorasmian", "chorasmian chrs"),
  ("Common", "common zyyy"),
  ("Coptic", "coptic copt qaac"),
  ("Cuneiform", "cuneiform xsux"),
  ("Cypriot", "cypriot cprt"),
  ("Cypro_Minoan", "cyprominoan cpmn"),
  ("Cyrillic", "cyrillic cyrl"),
  ("Deseret", "deseret dsrt"),
  ("Devanagari", "devanagari deva"),
  ("Dives_Akuru", "divesakuru diak"),
  ("Dogra", "dogra dogr"),
  ("Duployan", "duployan dupl"),
  ("Egyptian_Hieroglyphs", "egyptianhieroglyphs egyp"),
  ("Elbasan", "elbasan elba"),
  ("Elymaic", "elymaic elym"),
  ("Ethiopic", "ethiopic ethi"),
  ("Garay", "garay gara"),
  ("Georgian", "georgian geor"),
  ("Glagolitic", "glagolitic glag"),
  ("Gothic", "gothic goth"),
  ("Grantha", "grantha gran"),
  ("Greek", "greek grek"),
  ("Gujarati", "gujarati gujr"),
  ("Gunjala_Gondi", "gunjalagondi gong"),
  ("Gurmukhi", "gurmukhi guru"),
  ("Gurung_Khema", "gurungkhema gukh"),
  ("Han", "han hani"),
  ("Hangul", "hangul hang"),
  ("Hanifi_Rohingya", "hanifirohingya rohg"),
  ("Hanunoo", "hanunoo hano"),
  ("Hatran", "hatran hatr"),
  ("Hebrew", "hebrew hebr"),
  ("Hiragana", "hiragana hira"),
  ("Imperial_Aramaic", "imperialaramaic armi"),
  ("Inherited", "inherited zinh qaai"),
  ("Inscriptional_Pahlavi", "inscriptionalpahlavi phli"),
  ("Inscriptional_Parthian", "inscriptionalparthian prti"),
  ("Javanese", "javanese java"),
  ("Kaithi", "kaithi kthi"),
  ("Kannada", "kannada knda"),
  ("Katakana", "katakana kana"),
  ("Katakana_Or_Hiragana", "katakanaorhiragana hrkt"),
  ("Kawi", "kawi"),
  ("Kayah_Li", "kayahli kali"),
  ("Kharoshthi", "kharoshthi khar"),
  ("Khitan_Small_Script", "khitansmallscript kits"),
  ("Khmer", "khmer khmr"),
  ("Khojki", "khojki khoj"),
  ("Khudawadi", "khudawadi sind"),
  ("Kirat_Rai", "kiratrai krai"),
  ("Lao", "lao laoo"),
  ("Latin", "latin latn"),
  ("Lepcha", "lepcha lepc"),
  ("Limbu", "limbu limb"),
  ("Linear_A", "lineara lina"),
  ("Linear_B", "linearb linb"),
  ("Lisu", "lisu"),
  ("Lycian", "lycian lyci"),
  ("Lydian", "lydian lydi"),
  ("Mahajani", "mahajani mahj"),
  ("Makasar", "makasar maka"),
  ("Malayalam", "malayalam mlym"),
  ("Mandaic", "mandaic mand"),
  ("Manichaean", "manichaean mani"),
  ("Marchen", "marchen marc"),
  ("Masaram_Gondi", "masaramgondi gonm"),
  ("Medefaidrin", "medefaidrin medf"),
  ("Meetei_Mayek", "meeteimayek mtei"),
  ("Mende_Kikakui", "mendekikakui mend"),
  ("Meroitic_Cursive", "meroiticcursive merc"),
  ("Meroitic_Hieroglyphs", "meroitichieroglyphs mero"),
  ("Miao", "miao plrd"),
  ("Modi", "modi"),
  ("Mongolian", "mongolian mong"),
  ("Mro", "mro mroo"),
  ("Multani", "multani mult"),
  ("Myanmar", "myanmar mymr"),
  ("Nabataean", "nabataean nbat"),
  ("Nag_Mundari", "nagmundari nagm"),
  ("Nandinagari", "nandinagari nand"),
  ("New_Tai_Lue", "newtailue talu"),
  ("Newa", "newa"),
  ("Nko", "nko nkoo"),
  ("Nushu", "nushu nshu"),
  ("Nyiakeng_Puachue_Hmong", "nyiakengpuachuehmong hmnp"),
  ("Ogham", "ogham ogam"),
  ("Ol_Chiki", "olchiki olck"),
  ("Ol_Onal", "olonal onao"),
  ("Old_Hungarian", "oldhungarian hung"),
  ("Old_Italic", "olditalic ital"),
  ("Old_North_Arabian", "oldnortharabian narb"),
  ("Old_Permic", "oldpermic perm"),
  ("Old_Persian", "oldpersian xpeo"),
  ("Old_Sogdian", "oldsogdian sogo"),
  ("Old_South_Arabian", "oldsoutharabian sarb"),
  ("Old_Turkic", "oldturkic orkh"),
  ("Old_Uyghur", "olduyghur ougr"),
  ("Oriya", "oriya orya"),
  ("Osage", "osage osge"),
  ("Osmanya", "osmanya osma"),
  ("Pahawh_Hmong", "pahawhhmong hmng"),
  ("Palmyrene", "palmyrene palm"),
  ("Pau_Cin_Hau", "paucinhau pauc"),
  ("Phags_Pa", "phagspa phag"),
  ("Phoenician", "phoenician phnx"),
  ("Psalter_Pahlavi", "psalterpahlavi phlp"),
  ("Rejang", "rejang rjng"),
  ("Runic", "runic runr"),
  ("Samaritan", "samaritan samr"),
  ("Saurashtra", "saurashtra saur"),
  ("Sharada", "sharada shrd"),
  ("Shavian", "shavian shaw"),
  ("Siddham", "siddham sidd"),
  ("SignWriting", "signwriting sgnw"),
  ("Sinhala", "sinhala sinh"),
  ("Sogdian", "sogdian sogd"),
  ("Sora_Sompeng", "sorasompeng sora"),
  ("Soyombo", "soyombo soyo"),
  ("Sundanese", "sundanese sund"),
  ("Sunuwar", "sunuwar sunu"),
  ("Syloti_Nagri", "sylotinagri sylo"),
  ("Syriac", "syriac syrc"),
  ("Tagalog", "tagalog tglg"),
  ("Tagbanwa", "tagbanwa tagb"),
  ("Tai_Le", "taile tale"),
  ("Tai_Tham", "taitham lana"),
  ("Tai_Viet", "taiviet tavt"),
  ("Takri", "takri takr"),
  ("Tamil", "tamil taml"),
  ("Tangsa", "tangsa tnsa"),
  ("Tangut", "tangut tang"),
  ("Telugu", "telugu telu"),
  ("Thaana", "thaana thaa"),
  ("Thai", "thai"),
  ("Tibetan", "tibetan tibt"),
  ("Tifinagh", "tifinagh tfng"),
  ("Tirhuta", "tirhuta tirh"),
  ("Todhri", "todhri todr"),
  ("Toto", "toto"),
  ("Tulu_Tigalari", "tulutigalari tutg"),
  ("Ugaritic", "ugaritic ugar"),
  ("Unknown", "unknown zzzz"),
  ("Vai", "vai vaii"),
  ("Vithkuqi", "vithkuqi vith"),
  ("Wancho", "wancho wcho"),
  ("Warang_Citi", "warangciti wara"),
  ("Yezidi", "yezidi yezi"),
  ("Yi", "yi yiii"),
  ("Zanabazar_Square", "zanabazarsquare zanb")]

/-- The grapheme cluster break classes and the spellings of their names. -/
def graphemeBreakNames : List (String × String) := [
  ("CR", "cr"),
  ("Control", "control cn"),
  ("E_Base", "ebase eb"),
  ("E_Base_GAZ", "ebasegaz ebg"),
  ("E_Modifier", "emodifier em"),
  ("Extend", "extend ex"),
  ("Glue_After_Zwj", "glueafterzwj gaz"),
  ("L", "l"),
  ("LF", "lf"),
  ("LV", "lv"),
  ("LVT", "lvt"),
  ("Other", "other xx"),
  ("Prepend", "prepend pp"),
  ("Regional_Indicator", "regionalindicator ri"),
  ("SpacingMark", "spacingmark sm"),
  ("T", "t"),
  ("V", "v"),
  ("ZWJ", "zwj")]

/-- The word break classes and the spellings of their names. -/
def wordBreakNames : List (String × String) := [
  ("ALetter", "aletter le"),
  ("CR", "cr"),
  ("Double_Quote", "doublequote dq"),
  ("E_Base", "ebase eb"),
  ("E_Base_GAZ", "ebasegaz ebg"),
  ("E_Modifier", "emodifier em"),
  ("Extend", "extend"),
  ("ExtendNumLet", "extendnumlet ex"),
  ("Format", "format fo"),
  ("Glue_After_Zwj", "glueafterzwj gaz"),
  ("Hebrew_Letter", "hebrewletter hl"),
  ("Katakana", "katakana ka"),
  ("LF", "lf"),
  ("MidLetter", "midletter ml"),
  ("MidNum", "midnum mn"),
  ("MidNumLet", "midnumlet mb"),
  ("Newline", "newline nl"),
  ("Numeric", "numeric nu"),
  ("Other", "other xx"),
  ("Regional_Indicator", "regionalindicator ri"),
  ("Single_Quote", "singlequote sq"),
  ("WSegSpace", "wsegspace"),
  ("ZWJ", "zwj")]

/-- The sentence break classes and the spellings of their names. -/
def sentenceBreakNames : List (String × String) := [
  ("ATerm", "aterm at"),
  ("CR", "cr"),
  ("Close", "close cl"),
  ("Extend", "extend ex"),
  ("Format", "format fo"),
  ("LF", "lf"),
  ("Lower", "lower lo"),
  ("Numeric", "numeric nu"),
  ("OLetter", "oletter le"),
  ("Other", "other xx"),
  ("SContinue", "scontinue sc"),
  ("STerm", "sterm st"),
  ("Sep", "sep se"),
  ("Sp", "sp"),
  ("Upper", "upper up")]

end TrigramGrep.Unicode
