/-! The spellings under which categories, scripts and properties are known, without case, blanks and
underscores. -/

namespace UrlRouting.Unicode

def categoryNames : List (String × List String) :=
  [("c", ["Cc", "Cf", "Co", "Cn"]), ("casedletter", ["Lu", "Ll", "Lt"]), ("cc", ["Cc"]),
   ("cf", ["Cf"]), ("closepunctuation", ["Pe"]), ("cn", ["Cn"]), ("cntrl", ["Cc"]),
   ("co", ["Co"]), ("combiningmark", ["Mn", "Mc", "Me"]), ("connectorpunctuation", ["Pc"]),
   ("control", ["Cc"]), ("cs", []), ("currencysymbol", ["Sc"]), ("dashpunctuation", ["Pd"]),
   ("decimalnumber", ["Nd"]), ("digit", ["Nd"]), ("enclosingmark", ["Me"]),
   ("finalpunctuation", ["Pf"]), ("format", ["Cf"]), ("initialpunctuation", ["Pi"]),
   ("l", ["Lu", "Ll", "Lt", "Lm", "Lo"]), ("lc", ["Lu", "Ll", "Lt"]),
   ("letter", ["Lu", "Ll", "Lt", "Lm", "Lo"]), ("letternumber", ["Nl"]),
   ("lineseparator", ["Zl"]), ("ll", ["Ll"]), ("lm", ["Lm"]), ("lo", ["Lo"]),
   ("lowercaseletter", ["Ll"]), ("lt", ["Lt"]), ("lu", ["Lu"]), ("m", ["Mn", "Mc", "Me"]),
   ("mark", ["Mn", "Mc", "Me"]), ("mathsymbol", ["Sm"]), ("mc", ["Mc"]), ("me", ["Me"]),
   ("mn", ["Mn"]), ("modifierletter", ["Lm"]), ("modifiersymbol", ["Sk"]),
   ("n", ["Nd", "Nl", "No"]), ("nd", ["Nd"]), ("nl", ["Nl"]), ("no", ["No"]),
   ("nonspacingmark", ["Mn"]), ("number", ["Nd", "Nl", "No"]), ("openpunctuation", ["Ps"]),
   ("other", ["Cc", "Cf", "Co", "Cn"]), ("otherletter", ["Lo"]), ("othernumber", ["No"]),
   ("otherpunctuation", ["Po"]), ("othersymbol", ["So"]),
   ("p", ["Pc", "Pd", "Ps", "Pe", "Pi", "Pf", "Po"]), ("paragraphseparator", ["Zp"]),
   ("pc", ["Pc"]), ("pd", ["Pd"]), ("pe", ["Pe"]), ("pf", ["Pf"]), ("pi", ["Pi"]), ("po", ["Po"]),
   ("privateuse", ["Co"]), ("ps", ["Ps"]), ("punct", ["Pc", "Pd", "Ps", "Pe", "Pi", "Pf", "Po"]),
   ("punctuation", ["Pc", "Pd", "Ps", "Pe", "Pi", "Pf", "Po"]), ("s", ["Sm", "Sc", "Sk", "So"]),
   ("sc", ["Sc"]), ("separator", ["Zs", "Zl", "Zp"]), ("sk", ["Sk"]), ("sm", ["Sm"]),
   ("so", ["So"]), ("spaceseparator", ["Zs"]), ("spacingmark", ["Mc"]), ("surrogate", []),
   ("symbol", ["Sm", "Sc", "Sk", "So"]), ("titlecaseletter", ["Lt"]), ("unassigned", ["Cn"]),
   ("uppercaseletter", ["Lu"]), ("z", ["Zs", "Zl", "Zp"]), ("zl", ["Zl"]), ("zp", ["Zp"]),
   ("zs", ["Zs"])]

def scriptNames : List (String × String) :=
  [("adlam", "Adlm"), ("adlm", "Adlm"), ("aghb", "Aghb"), ("ahom", "Ahom"),
   ("anatolianhieroglyphs", "Hluw"), ("arab", "Arab"), ("arabic", "Arab"), ("armenian", "Armn"),
   ("armi", "Armi"), ("armn", "Armn"), ("avestan", "Avst"), ("avst", "Avst"), ("bali", "Bali"),
   ("balinese", "Bali"), ("bamu", "Bamu"), ("bamum", "Bamu"), ("bass", "Bass"),
   ("bassavah", "Bass"), ("batak", "Batk"), ("batk", "Batk"), ("beng", "Beng"),
   ("bengali", "Beng"), ("berf", "Berf"), ("beriaerfe", "Berf"), ("bhaiksuki", "Bhks"),
   ("bhks", "Bhks"), ("bopo", "Bopo"), ("bopomofo", "Bopo"), ("brah", "Brah"), ("brahmi", "Brah"),
   ("brai", "Brai"), ("braille", "Brai"), ("bugi", "Bugi"), ("buginese", "Bugi"),
   ("buhd", "Buhd"), ("buhid", "Buhd"), ("cakm", "Cakm"), ("canadianaboriginal", "Cans"),
   ("cans", "Cans"), ("cari", "Cari"), ("carian", "Cari"), ("caucasianalbanian", "Aghb"),
   ("chakma", "Cakm"), ("cham", "Cham"), ("cher", "Cher"), ("cherokee", "Cher"),
   ("chorasmian", "Chrs"), ("chrs", "Chrs"), ("common", "Zyyy"), ("copt", "Copt"),
   ("coptic", "Copt"), ("cpmn", "Cpmn"), ("cprt", "Cprt"), ("cuneiform", "Xsux"),
   ("cypriot", "Cprt"), ("cyprominoan", "Cpmn"), ("cyrillic", "Cyrl"), ("cyrl", "Cyrl"),
   ("deseret", "Dsrt"), ("deva", "Deva"), ("devanagari", "Deva"), ("diak", "Diak"),
   ("divesakuru", "Diak"), ("dogr", "Dogr"), ("dogra", "Dogr"), ("dsrt", "Dsrt"),
   ("dupl", "Dupl"), ("duployan", "Dupl"), ("egyp", "Egyp"), ("egyptianhieroglyphs", "Egyp"),
   ("elba", "Elba"), ("elbasan", "Elba"), ("elym", "Elym"), ("elymaic", "Elym"), ("ethi", "Ethi"),
   ("ethiopic", "Ethi"), ("gara", "Gara"), ("garay", "Gara"), ("geor", "Geor"),
   ("georgian", "Geor"), ("glag", "Glag"), ("glagolitic", "Glag"), ("gong", "Gong"),
   ("gonm", "Gonm"), ("goth", "Goth"), ("gothic", "Goth"), ("gran", "Gran"), ("grantha", "Gran"),
   ("greek", "Grek"), ("grek", "Grek"), ("gujarati", "Gujr"), ("gujr", "Gujr"), ("gukh", "Gukh"),
   ("gunjalagondi", "Gong"), ("gurmukhi", "Guru"), ("guru", "Guru"), ("gurungkhema", "Gukh"),
   ("han", "Hani"), ("hang", "Hang"), ("hangul", "Hang"), ("hani", "Hani"),
   ("hanifirohingya", "Rohg"), ("hano", "Hano"), ("hanunoo", "Hano"), ("hatr", "Hatr"),
   ("hatran", "Hatr"), ("hebr", "Hebr"), ("hebrew", "Hebr"), ("hira", "Hira"),
   ("hiragana", "Hira"), ("hluw", "Hluw"), ("hmng", "Hmng"), ("hmnp", "Hmnp"), ("hung", "Hung"),
   ("imperialaramaic", "Armi"), ("inherited", "Zinh"), ("inscriptionalpahlavi", "Phli"),
   ("inscriptionalparthian", "Prti"), ("ital", "Ital"), ("java", "Java"), ("javanese", "Java"),
   ("kaithi", "Kthi"), ("kali", "Kali"), ("kana", "Kana"), ("kannada", "Knda"),
   ("katakana", "Kana"), ("kawi", "Kawi"), ("kayahli", "Kali"), ("khar", "Khar"),
   ("kharoshthi", "Khar"), ("khitansmallscript", "Kits"), ("khmer", "Khmr"), ("khmr", "Khmr"),
   ("khoj", "Khoj"), ("khojki", "Khoj"), ("khudawadi", "Sind"), ("kiratrai", "Krai"),
   ("kits", "Kits"), ("knda", "Knda"), ("krai", "Krai"), ("kthi", "Kthi"), ("lana", "Lana"),
   ("lao", "Laoo"), ("laoo", "Laoo"), ("latin", "Latn"), ("latn", "Latn"), ("lepc", "Lepc"),
   ("lepcha", "Lepc"), ("limb", "Limb"), ("limbu", "Limb"), ("lina", "Lina"), ("linb", "Linb"),
   ("lineara", "Lina"), ("linearb", "Linb"), ("lisu", "Lisu"), ("lyci", "Lyci"),
   ("lycian", "Lyci"), ("lydi", "Lydi"), ("lydian", "Lydi"), ("mahajani", "Mahj"),
   ("mahj", "Mahj"), ("maka", "Maka"), ("makasar", "Maka"), ("malayalam", "Mlym"),
   ("mand", "Mand"), ("mandaic", "Mand"), ("mani", "Mani"), ("manichaean", "Mani"),
   ("marc", "Marc"), ("marchen", "Marc"), ("masaramgondi", "Gonm"), ("medefaidrin", "Medf"),
   ("medf", "Medf"), ("meeteimayek", "Mtei"), ("mend", "Mend"), ("mendekikakui", "Mend"),
   ("merc", "Merc"), ("mero", "Mero"), ("meroiticcursive", "Merc"),
   ("meroitichieroglyphs", "Mero"), ("miao", "Plrd"), ("mlym", "Mlym"), ("modi", "Modi"),
   ("mong", "Mong"), ("mongolian", "Mong"), ("mro", "Mroo"), ("mroo", "Mroo"), ("mtei", "Mtei"),
   ("mult", "Mult"), ("multani", "Mult"), ("myanmar", "Mymr"), ("mymr", "Mymr"),
   ("nabataean", "Nbat"), ("nagm", "Nagm"), ("nagmundari", "Nagm"), ("nand", "Nand"),
   ("nandinagari", "Nand"), ("narb", "Narb"), ("nbat", "Nbat"), ("newa", "Newa"),
   ("newtailue", "Talu"), ("nko", "Nkoo"), ("nkoo", "Nkoo"), ("nshu", "Nshu"), ("nushu", "Nshu"),
   ("nyiakengpuachuehmong", "Hmnp"), ("ogam", "Ogam"), ("ogham", "Ogam"), ("olchiki", "Olck"),
   ("olck", "Olck"), ("oldhungarian", "Hung"), ("olditalic", "Ital"), ("oldnortharabian", "Narb"),
   ("oldpermic", "Perm"), ("oldpersian", "Xpeo"), ("oldsogdian", "Sogo"),
   ("oldsoutharabian", "Sarb"), ("oldturkic", "Orkh"), ("olduyghur", "Ougr"), ("olonal", "Onao"),
   ("onao", "Onao"), ("oriya", "Orya"), ("orkh", "Orkh"), ("orya", "Orya"), ("osage", "Osge"),
   ("osge", "Osge"), ("osma", "Osma"), ("osmanya", "Osma"), ("ougr", "Ougr"),
   ("pahawhhmong", "Hmng"), ("palm", "Palm"), ("palmyrene", "Palm"), ("pauc", "Pauc"),
   ("paucinhau", "Pauc"), ("perm", "Perm"), ("phag", "Phag"), ("phagspa", "Phag"),
   ("phli", "Phli"), ("phlp", "Phlp"), ("phnx", "Phnx"), ("phoenician", "Phnx"), ("plrd", "Plrd"),
   ("prti", "Prti"), ("psalterpahlavi", "Phlp"), ("qaac", "Copt"), ("qaai", "Zinh"),
   ("rejang", "Rjng"), ("rjng", "Rjng"), ("rohg", "Rohg"), ("runic", "Runr"), ("runr", "Runr"),
   ("samaritan", "Samr"), ("samr", "Samr"), ("sarb", "Sarb"), ("saur", "Saur"),
   ("saurashtra", "Saur"), ("sgnw", "Sgnw"), ("sharada", "Shrd"), ("shavian", "Shaw"),
   ("shaw", "Shaw"), ("shrd", "Shrd"), ("sidd", "Sidd"), ("siddham", "Sidd"), ("sidetic", "Sidt"),
   ("sidt", "Sidt"), ("signwriting", "Sgnw"), ("sind", "Sind"), ("sinh", "Sinh"),
   ("sinhala", "Sinh"), ("sogd", "Sogd"), ("sogdian", "Sogd"), ("sogo", "Sogo"), ("sora", "Sora"),
   ("sorasompeng", "Sora"), ("soyo", "Soyo"), ("soyombo", "Soyo"), ("sund", "Sund"),
   ("sundanese", "Sund"), ("sunu", "Sunu"), ("sunuwar", "Sunu"), ("sylo", "Sylo"),
   ("sylotinagri", "Sylo"), ("syrc", "Syrc"), ("syriac", "Syrc"), ("tagalog", "Tglg"),
   ("tagb", "Tagb"), ("tagbanwa", "Tagb"), ("taile", "Tale"), ("taitham", "Lana"),
   ("taiviet", "Tavt"), ("taiyo", "Tayo"), ("takr", "Takr"), ("takri", "Takr"), ("tale", "Tale"),
   ("talu", "Talu"), ("tamil", "Taml"), ("taml", "Taml"), ("tang", "Tang"), ("tangsa", "Tnsa"),
   ("tangut", "Tang"), ("tavt", "Tavt"), ("tayo", "Tayo"), ("telu", "Telu"), ("telugu", "Telu"),
   ("tfng", "Tfng"), ("tglg", "Tglg"), ("thaa", "Thaa"), ("thaana", "Thaa"), ("thai", "Thai"),
   ("tibetan", "Tibt"), ("tibt", "Tibt"), ("tifinagh", "Tfng"), ("tirh", "Tirh"),
   ("tirhuta", "Tirh"), ("tnsa", "Tnsa"), ("todhri", "Todr"), ("todr", "Todr"),
   ("tolongsiki", "Tols"), ("tols", "Tols"), ("toto", "Toto"), ("tulutigalari", "Tutg"),
   ("tutg", "Tutg"), ("ugar", "Ugar"), ("ugaritic", "Ugar"), ("vai", "Vaii"), ("vaii", "Vaii"),
   ("vith", "Vith"), ("vithkuqi", "Vith"), ("wancho", "Wcho"), ("wara", "Wara"),
   ("warangciti", "Wara"), ("wcho", "Wcho"), ("xpeo", "Xpeo"), ("xsux", "Xsux"), ("yezi", "Yezi"),
   ("yezidi", "Yezi"), ("yi", "Yiii"), ("yiii", "Yiii"), ("zanabazarsquare", "Zanb"),
   ("zanb", "Zanb"), ("zinh", "Zinh"), ("zyyy", "Zyyy")]

def propertyNames : List (String × String) :=
  [("ahex", "asciihexdigit"), ("alpha", "alphabetic"), ("alphabetic", "alphabetic"),
   ("asciihexdigit", "asciihexdigit"), ("bidic", "bidicontrol"), ("bidicontrol", "bidicontrol"),
   ("bidim", "bidimirrored"), ("bidimirrored", "bidimirrored"), ("cased", "cased"),
   ("caseignorable", "caseignorable"), ("changeswhencasefolded", "changeswhencasefolded"),
   ("changeswhencasemapped", "changeswhencasemapped"),
   ("changeswhenlowercased", "changeswhenlowercased"),
   ("changeswhentitlecased", "changeswhentitlecased"),
   ("changeswhenuppercased", "changeswhenuppercased"), ("ci", "caseignorable"),
   ("cwcf", "changeswhencasefolded"), ("cwcm", "changeswhencasemapped"),
   ("cwl", "changeswhenlowercased"), ("cwt", "changeswhentitlecased"),
   ("cwu", "changeswhenuppercased"), ("dash", "dash"),
   ("defaultignorablecodepoint", "defaultignorablecodepoint"), ("dep", "deprecated"),
   ("deprecated", "deprecated"), ("di", "defaultignorablecodepoint"), ("dia", "diacritic"),
   ("diacritic", "diacritic"), ("ebase", "emojimodifierbase"), ("ecomp", "emojicomponent"),
   ("emod", "emojimodifier"), ("emoji", "emoji"), ("emojicomponent", "emojicomponent"),
   ("emojimodifier", "emojimodifier"), ("emojimodifierbase", "emojimodifierbase"),
   ("emojipresentation", "emojipresentation"), ("epres", "emojipresentation"),
   ("ext", "extender"), ("extendedpictographic", "extendedpictographic"),
   ("extender", "extender"), ("extpict", "extendedpictographic"),
   ("graphemebase", "graphemebase"), ("graphemeextend", "graphemeextend"),
   ("grbase", "graphemebase"), ("grext", "graphemeextend"), ("hex", "hexdigit"),
   ("hexdigit", "hexdigit"), ("hyphen", "hyphen"), ("idc", "idcontinue"),
   ("idcontinue", "idcontinue"), ("ideo", "ideographic"), ("ideographic", "ideographic"),
   ("ids", "idstart"), ("idsb", "idsbinaryoperator"), ("idsbinaryoperator", "idsbinaryoperator"),
   ("idst", "idstrinaryoperator"), ("idstart", "idstart"),
   ("idstrinaryoperator", "idstrinaryoperator"), ("joinc", "joincontrol"),
   ("joincontrol", "joincontrol"), ("loe", "logicalorderexception"),
   ("logicalorderexception", "logicalorderexception"), ("lower", "lowercase"),
   ("lowercase", "lowercase"), ("math", "math"), ("nchar", "noncharactercodepoint"),
   ("noncharactercodepoint", "noncharactercodepoint"), ("oalpha", "otheralphabetic"),
   ("odi", "otherdefaultignorablecodepoint"), ("ogrext", "othergraphemeextend"),
   ("oidc", "otheridcontinue"), ("oids", "otheridstart"), ("olower", "otherlowercase"),
   ("omath", "othermath"), ("otheralphabetic", "otheralphabetic"),
   ("otherdefaultignorablecodepoint", "otherdefaultignorablecodepoint"),
   ("othergraphemeextend", "othergraphemeextend"), ("otheridcontinue", "otheridcontinue"),
   ("otheridstart", "otheridstart"), ("otherlowercase", "otherlowercase"),
   ("othermath", "othermath"), ("otheruppercase", "otheruppercase"), ("oupper", "otheruppercase"),
   ("patsyn", "patternsyntax"), ("patternsyntax", "patternsyntax"),
   ("patternwhitespace", "patternwhitespace"), ("patws", "patternwhitespace"),
   ("pcm", "prependedconcatenationmark"),
   ("prependedconcatenationmark", "prependedconcatenationmark"), ("qmark", "quotationmark"),
   ("quotationmark", "quotationmark"), ("radical", "radical"),
   ("regionalindicator", "regionalindicator"), ("ri", "regionalindicator"), ("sd", "softdotted"),
   ("sentenceterminal", "sentenceterminal"), ("softdotted", "softdotted"),
   ("space", "whitespace"), ("sterm", "sentenceterminal"), ("term", "terminalpunctuation"),
   ("terminalpunctuation", "terminalpunctuation"), ("uideo", "unifiedideograph"),
   ("unifiedideograph", "unifiedideograph"), ("upper", "uppercase"), ("uppercase", "uppercase"),
   ("variationselector", "variationselector"), ("vs", "variationselector"),
   ("whitespace", "whitespace"), ("wspace", "whitespace"), ("xidc", "xidcontinue"),
   ("xidcontinue", "xidcontinue"), ("xids", "xidstart"), ("xidstart", "xidstart")]

/-- Names of the values of the segmentation properties, each with its key among the break
classes. -/
def breakClassNames : List (String × String) :=
  [("graphemeclusterbreak=cn", "graphemeclusterbreak=cn"),
   ("graphemeclusterbreak=control", "graphemeclusterbreak=cn"),
   ("graphemeclusterbreak=cr", "graphemeclusterbreak=cr"),
   ("graphemeclusterbreak=ex", "graphemeclusterbreak=ex"),
   ("graphemeclusterbreak=extend", "graphemeclusterbreak=ex"),
   ("graphemeclusterbreak=l", "graphemeclusterbreak=l"),
   ("graphemeclusterbreak=lf", "graphemeclusterbreak=lf"),
   ("graphemeclusterbreak=lv", "graphemeclusterbreak=lv"),
   ("graphemeclusterbreak=lvt", "graphemeclusterbreak=lvt"),
   ("graphemeclusterbreak=pp", "graphemeclusterbreak=pp"),
   ("graphemeclusterbreak=prepend", "graphemeclusterbreak=pp"),
   ("graphemeclusterbreak=regionalindicator", "graphemeclusterbreak=ri"),
   ("graphemeclusterbreak=ri", "graphemeclusterbreak=ri"),
   ("graphemeclusterbreak=sm", "graphemeclusterbreak=sm"),
   ("graphemeclusterbreak=spacingmark", "graphemeclusterbreak=sm"),
   ("graphemeclusterbreak=t", "graphemeclusterbreak=t"),
   ("graphemeclusterbreak=v", "graphemeclusterbreak=v"),
   ("graphemeclusterbreak=zwj", "graphemeclusterbreak=zwj"),
   ("sentencebreak=at", "sentencebreak=at"), ("sentencebreak=aterm", "sentencebreak=at"),
   ("sentencebreak=cl", "sentencebreak=cl"), ("sentencebreak=close", "sentencebreak=cl"),
   ("sentencebreak=cr", "sentencebreak=cr"), ("sentencebreak=ex", "sentencebreak=ex"),
   ("sentencebreak=extend", "sentencebreak=ex"), ("sentencebreak=fo", "sentencebreak=fo"),
   ("sentencebreak=format", "sentencebreak=fo"), ("sentencebreak=le", "sentencebreak=le"),
   ("sentencebreak=lf", "sentencebreak=lf"), ("sentencebreak=lo", "sentencebreak=lo"),
   ("sentencebreak=lower", "sentencebreak=lo"), ("sentencebreak=nu", "sentencebreak=nu"),
   ("sentencebreak=numeric", "sentencebreak=nu"), ("sentencebreak=oletter", "sentencebreak=le"),
   ("sentencebreak=sc", "sentencebreak=sc"), ("sentencebreak=scontinue", "sentencebreak=sc"),
   ("sentencebreak=se", "sentencebreak=se"), ("sentencebreak=sep", "sentencebreak=se"),
   ("sentencebreak=sp", "sentencebreak=sp"), ("sentencebreak=st", "sentencebreak=st"),
   ("sentencebreak=sterm", "sentencebreak=st"), ("sentencebreak=up", "sentencebreak=up"),
   ("sentencebreak=upper", "sentencebreak=up"), ("wordbreak=aletter", "wordbreak=le"),
   ("wordbreak=cr", "wordbreak=cr"), ("wordbreak=doublequote", "wordbreak=dq"),
   ("wordbreak=dq", "wordbreak=dq"), ("wordbreak=ex", "wordbreak=ex"),
   ("wordbreak=extend", "wordbreak=extend"), ("wordbreak=extendnumlet", "wordbreak=ex"),
   ("wordbreak=fo", "wordbreak=fo"), ("wordbreak=format", "wordbreak=fo"),
   ("wordbreak=hebrewletter", "wordbreak=hl"), ("wordbreak=hl", "wordbreak=hl"),
   ("wordbreak=ka", "wordbreak=ka"), ("wordbreak=katakana", "wordbreak=ka"),
   ("wordbreak=le", "wordbreak=le"), ("wordbreak=lf", "wordbreak=lf"),
   ("wordbreak=mb", "wordbreak=mb"), ("wordbreak=midletter", "wordbreak=ml"),
   ("wordbreak=midnum", "wordbreak=mn"), ("wordbreak=midnumlet", "wordbreak=mb"),
   ("wordbreak=ml", "wordbreak=ml"), ("wordbreak=mn", "wordbreak=mn"),
   ("wordbreak=newline", "wordbreak=nl"), ("wordbreak=nl", "wordbreak=nl"),
   ("wordbreak=nu", "wordbreak=nu"), ("wordbreak=numeric", "wordbreak=nu"),
   ("wordbreak=regionalindicator", "wordbreak=ri"), ("wordbreak=ri", "wordbreak=ri"),
   ("wordbreak=singlequote", "wordbreak=sq"), ("wordbreak=sq", "wordbreak=sq"),
   ("wordbreak=wsegspace", "wordbreak=wsegspace"), ("wordbreak=zwj", "wordbreak=zwj")]

end UrlRouting.Unicode
