/-!
# Folding characters for comparison

Many characters are variants of others: capitals, ligatures, wide and narrow forms, letters in a
circle. `fold` puts for each character the ones it is a variant of, as domain names want it: the
letters ß and ς stay, and what only steers how a line is laid out is dropped.
-/

set_option autoImplicit false

namespace ConditionalGet.Text

/-- Characters that stand for one other, each followed by it. -/
def foldedPairs : List String := [
  "\u00a0 ªa²2³3µμ¹1ºoÀàÁáÂâÃãÄäÅåÆæÇçÈèÉéÊêËëÌìÍíÎîÏïÐðÑñÒòÓóÔôÕõÖöØøÙù",
  "ÚúÛûÜüÝýÞþĀāĂăĄąĆćĈĉĊċČčĎďĐđĒēĔĕĖėĘęĚěĜĝĞğĠġĢģĤĥĦħĨĩĪīĬĭĮįĴĵĶķĹĺ",
  "ĻļĽľŁłŃńŅņŇňŊŋŌōŎŏŐőŒœŔŕŖŗŘřŚśŜŝŞşŠšŢţŤťŦŧŨũŪūŬŭŮůŰűŲųŴŵŶŷŸÿŹźŻż",
  "ŽžſsƁɓƂƃƄƅƆɔƇƈƉɖƊɗƋƌƎǝƏəƐɛƑƒƓɠƔɣƖɩƗɨƘƙƜɯƝɲƟɵƠơƢƣƤƥƦʀƧƨƩʃƬƭƮʈƯưƱʊ",
  "ƲʋƳƴƵƶƷʒƸƹƼƽǍǎǏǐǑǒǓǔǕǖǗǘǙǚǛǜǞǟǠǡǢǣǤǥǦǧǨǩǪǫǬǭǮǯǴǵǶƕǷƿǸǹǺǻǼǽǾǿȀȁȂȃ",
  "ȄȅȆȇȈȉȊȋȌȍȎȏȐȑȒȓȔȕȖȗȘșȚțȜȝȞȟȠƞȢȣȤȥȦȧȨȩȪȫȬȭȮȯȰȱȲȳȺⱥȻȼȽƚȾⱦɁɂɃƀɄʉɅʌ",
  "ɆɇɈɉɊɋɌɍɎɏʰhʱɦʲjʳrʴɹʵɻʶʁʷwʸyˠɣˡlˢsˣxˤʕ̀̀́́̓̓ͅιͰͱͲͳʹʹͶͷ;;ͿϳΆά··Έέ",
  "ΉήΊίΌόΎύΏώΑαΒβΓγΔδΕεΖζΗηΘθΙιΚκΛλΜμΝνΞξΟοΠπΡρΣσΤτΥυΦφΧχΨψΩωΪϊΫϋϏϗ",
  "ϐβϑθϒυϓύϔϋϕφϖπϘϙϚϛϜϝϞϟϠϡϢϣϤϥϦϧϨϩϪϫϬϭϮϯϰκϱρϲσϴθϵεϷϸϹσϺϻϽͻϾͼϿͽЀѐЁё",
  "ЂђЃѓЄєЅѕІіЇїЈјЉљЊњЋћЌќЍѝЎўЏџАаБбВвГгДдЕеЖжЗзИиЙйКкЛлМмНнОоПпРрСс",
  "ТтУуФфХхЦцЧчШшЩщЪъЫыЬьЭэЮюЯяѠѡѢѣѤѥѦѧѨѩѪѫѬѭѮѯѰѱѲѳѴѵѶѷѸѹѺѻѼѽѾѿҀҁҊҋ",
  "ҌҍҎҏҐґҒғҔҕҖҗҘҙҚқҜҝҞҟҠҡҢңҤҥҦҧҨҩҪҫҬҭҮүҰұҲҳҴҵҶҷҸҹҺһҼҽҾҿӀӏӁӂӃӄӅӆӇӈӉӊ",
  "ӋӌӍӎӐӑӒӓӔӕӖӗӘәӚӛӜӝӞӟӠӡӢӣӤӥӦӧӨөӪӫӬӭӮӯӰӱӲӳӴӵӶӷӸӹӺӻӼӽӾӿԀԁԂԃԄԅԆԇԈԉԊԋ",
  "ԌԍԎԏԐԑԒԓԔԕԖԗԘԙԚԛԜԝԞԟԠԡԢԣԤԥԦԧԨԩԪԫԬԭԮԯԱաԲբԳգԴդԵեԶզԷէԸըԹթԺժԻիԼլԽխԾծ",
  "ԿկՀհՁձՂղՃճՄմՅյՆնՇշՈոՉչՊպՋջՌռՍսՎվՏտՐրՑցՒւՓփՔքՕօՖֆ༌་ႠⴀႡⴁႢⴂႣⴃႤⴄႥⴅႦⴆ",
  "ႧⴇႨⴈႩⴉႪⴊႫⴋႬⴌႭⴍႮⴎႯⴏႰⴐႱⴑႲⴒႳⴓႴⴔႵⴕႶⴖႷⴗႸⴘႹⴙႺⴚႻⴛႼⴜႽⴝႾⴞႿⴟჀⴠჁⴡჂⴢჃⴣჄⴤჅⴥჇⴧ",
  "ჍⴭჼნᏸᏰᏹᏱᏺᏲᏻᏳᏼᏴᏽᏵᲀвᲁдᲂоᲃсᲄтᲅтᲆъᲇѣᲈꙋᲐაᲑბᲒგᲓდᲔეᲕვᲖზᲗთᲘიᲙკᲚლᲛმᲜნᲝოᲞპ",
  "ᲟჟᲠრᲡსᲢტᲣუᲤფᲥქᲦღᲧყᲨშᲩჩᲪცᲫძᲬწᲭჭᲮხᲯჯᲰჰᲱჱᲲჲᲳჳᲴჴᲵჵᲶჶᲷჷᲸჸᲹჹᲺჺᲽჽᲾჾᲿჿᴬa",
  "ᴭæᴮbᴰdᴱeᴲǝᴳgᴴhᴵiᴶjᴷkᴸlᴹmᴺnᴼoᴽȣᴾpᴿrᵀtᵁuᵂwᵃaᵄɐᵅɑᵆᴂᵇbᵈdᵉeᵊəᵋɛᵌɜᵍgᵏk",
  "ᵐmᵑŋᵒoᵓɔᵔᴖᵕᴗᵖpᵗtᵘuᵙᴝᵚɯᵛvᵜᴥᵝβᵞγᵟδᵠφᵡχᵢiᵣrᵤuᵥvᵦβᵧγᵨρᵩφᵪχᵸнᶛɒᶜcᶝɕᶞð",
  "ᶟɜᶠfᶡɟᶢɡᶣɥᶤɨᶥɩᶦɪᶧᵻᶨʝᶩɭᶪᶅᶫʟᶬɱᶭɰᶮɲᶯɳᶰɴᶱɵᶲɸᶳʂᶴʃᶵƫᶶʉᶷʊᶸᴜᶹʋᶺʌᶻzᶼʐᶽʑᶾʒ",
  "ᶿθḀḁḂḃḄḅḆḇḈḉḊḋḌḍḎḏḐḑḒḓḔḕḖḗḘḙḚḛḜḝḞḟḠḡḢḣḤḥḦḧḨḩḪḫḬḭḮḯḰḱḲḳḴḵḶḷḸḹḺḻḼḽ",
  "ḾḿṀṁṂṃṄṅṆṇṈṉṊṋṌṍṎṏṐṑṒṓṔṕṖṗṘṙṚṛṜṝṞṟṠṡṢṣṤṥṦṧṨṩṪṫṬṭṮṯṰṱṲṳṴṵṶṷṸṹṺṻṼṽ",
  "ṾṿẀẁẂẃẄẅẆẇẈẉẊẋẌẍẎẏẐẑẒẓẔẕẛṡẞßẠạẢảẤấẦầẨẩẪẫẬậẮắẰằẲẳẴẵẶặẸẹẺẻẼẽẾếỀềỂể",
  "ỄễỆệỈỉỊịỌọỎỏỐốỒồỔổỖỗỘộỚớỜờỞởỠỡỢợỤụỦủỨứỪừỬửỮữỰựỲỳỴỵỶỷỸỹỺỻỼỽỾỿἈἀἉἁ",
  "ἊἂἋἃἌἄἍἅἎἆἏἇἘἐἙἑἚἒἛἓἜἔἝἕἨἠἩἡἪἢἫἣἬἤἭἥἮἦἯἧἸἰἹἱἺἲἻἳἼἴἽἵἾἶἿἷὈὀὉὁὊὂὋὃ",
  "ὌὄὍὅὙὑὛὓὝὕὟὗὨὠὩὡὪὢὫὣὬὤὭὥὮὦὯὧάάέέήήίίόόύύώώᾸᾰᾹᾱᾺὰΆάιιῈὲΈέῊὴΉήΐΐῘῐ",
  "ῙῑῚὶΊίΰΰῨῠῩῡῪὺΎύῬῥ`\x60ῸὸΌόῺὼΏώ\u2000 \u2001 \u2002 \u2003 \u2004 \u2005 \u2006 \u2007 \u2008 \u2009 \u200a ‑‐․.\u202f \u205f ⁰0ⁱi⁴4",
  "⁵5⁶6⁷7⁸8⁹9⁺+⁻−⁼=⁽(⁾)ⁿn₀0₁1₂2₃3₄4₅5₆6₇7₈8₉9₊+₋−₌=₍(₎)ₐaₑeₒoₓxₔəₕh",
  "ₖkₗlₘmₙnₚpₛsₜtℂcℇɛℊgℋhℌhℍhℎhℏħℐiℑiℒlℓlℕnℙpℚqℛrℜrℝrℤzΩωℨzKkÅåℬbℭc",
  "ℯeℰeℱfℲⅎℳmℴoℵאℶבℷגℸדℹiℼπℽγℾγℿπ⅀∑ⅅdⅆdⅇeⅈiⅉjⅠiⅤvⅩxⅬlⅭcⅮdⅯmⅰiⅴvⅹxⅼl",
  "ⅽcⅾdⅿmↃↄ〈〈〉〉①1②2③3④4⑤5⑥6⑦7⑧8⑨9ⒶaⒷbⒸcⒹdⒺeⒻfⒼgⒽhⒾiⒿjⓀkⓁlⓂmⓃnⓄoⓅpⓆq",
  "ⓇrⓈsⓉtⓊuⓋvⓌwⓍxⓎyⓏzⓐaⓑbⓒcⓓdⓔeⓕfⓖgⓗhⓘiⓙjⓚkⓛlⓜmⓝnⓞoⓟpⓠqⓡrⓢsⓣtⓤuⓥvⓦw",
  "ⓧxⓨyⓩz⓪0ⰀⰰⰁⰱⰂⰲⰃⰳⰄⰴⰅⰵⰆⰶⰇⰷⰈⰸⰉⰹⰊⰺⰋⰻⰌⰼⰍⰽⰎⰾⰏⰿⰐⱀⰑⱁⰒⱂⰓⱃⰔⱄⰕⱅⰖⱆⰗⱇⰘⱈⰙⱉⰚⱊⰛⱋ",
  "ⰜⱌⰝⱍⰞⱎⰟⱏⰠⱐⰡⱑⰢⱒⰣⱓⰤⱔⰥⱕⰦⱖⰧⱗⰨⱘⰩⱙⰪⱚⰫⱛⰬⱜⰭⱝⰮⱞⰯⱟⱠⱡⱢɫⱣᵽⱤɽⱧⱨⱩⱪⱫⱬⱭɑⱮɱⱯɐⱰɒⱲⱳ",
  "ⱵⱶⱼjⱽvⱾȿⱿɀⲀⲁⲂⲃⲄⲅⲆⲇⲈⲉⲊⲋⲌⲍⲎⲏⲐⲑⲒⲓⲔⲕⲖⲗⲘⲙⲚⲛⲜⲝⲞⲟⲠⲡⲢⲣⲤⲥⲦⲧⲨⲩⲪⲫⲬⲭⲮⲯⲰⲱⲲⲳⲴⲵ",
  "ⲶⲷⲸⲹⲺⲻⲼⲽⲾⲿⳀⳁⳂⳃⳄⳅⳆⳇⳈⳉⳊⳋⳌⳍⳎⳏⳐⳑⳒⳓⳔⳕⳖⳗⳘⳙⳚⳛⳜⳝⳞⳟⳠⳡⳢⳣⳫⳬⳭⳮⳲⳳⵯⵡ⺟母⻳龟⼀一⼁丨⼂丶",
  "⼃丿⼄乙⼅亅⼆二⼇亠⼈人⼉儿⼊入⼋八⼌冂⼍冖⼎冫⼏几⼐凵⼑刀⼒力⼓勹⼔匕⼕匚⼖匸⼗十⼘卜⼙卩⼚厂⼛厶⼜又⼝口⼞囗⼟土⼠士⼡夂⼢夊",
  "⼣夕⼤大⼥女⼦子⼧宀⼨寸⼩小⼪尢⼫尸⼬屮⼭山⼮巛⼯工⼰己⼱巾⼲干⼳幺⼴广⼵廴⼶廾⼷弋⼸弓⼹彐⼺彡⼻彳⼼心⼽戈⼾戶⼿手⽀支⽁攴⽂文",
  "⽃斗⽄斤⽅方⽆无⽇日⽈曰⽉月⽊木⽋欠⽌止⽍歹⽎殳⽏毋⽐比⽑毛⽒氏⽓气⽔水⽕火⽖爪⽗父⽘爻⽙爿⽚片⽛牙⽜牛⽝犬⽞玄⽟玉⽠瓜⽡瓦⽢甘",
  "⽣生⽤用⽥田⽦疋⽧疒⽨癶⽩白⽪皮⽫皿⽬目⽭矛⽮矢⽯石⽰示⽱禸⽲禾⽳穴⽴立⽵竹⽶米⽷糸⽸缶⽹网⽺羊⽻羽⽼老⽽而⽾耒⽿耳⾀聿⾁肉⾂臣",
  "⾃自⾄至⾅臼⾆舌⾇舛⾈舟⾉艮⾊色⾋艸⾌虍⾍虫⾎血⾏行⾐衣⾑襾⾒見⾓角⾔言⾕谷⾖豆⾗豕⾘豸⾙貝⾚赤⾛走⾜足⾝身⾞車⾟辛⾠辰⾡辵⾢邑",
  "⾣酉⾤釆⾥里⾦金⾧長⾨門⾩阜⾪隶⾫隹⾬雨⾭靑⾮非⾯面⾰革⾱韋⾲韭⾳音⾴頁⾵風⾶飛⾷食⾸首⾹香⾺馬⾻骨⾼高⾽髟⾾鬥⾿鬯⿀鬲⿁鬼⿂魚",
  "⿃鳥⿄鹵⿅鹿⿆麥⿇麻⿈黃⿉黍⿊黑⿋黹⿌黽⿍鼎⿎鼓⿏鼠⿐鼻⿑齊⿒齒⿓龍⿔龜⿕龠\u3000 。.〶〒〸十〹卄〺卅ㄱᄀㄲᄁㄳᆪㄴᄂㄵᆬㄶᆭㄷᄃ",
  "ㄸᄄㄹᄅㄺᆰㄻᆱㄼᆲㄽᆳㄾᆴㄿᆵㅀᄚㅁᄆㅂᄇㅃᄈㅄᄡㅅᄉㅆᄊㅇᄋㅈᄌㅉᄍㅊᄎㅋᄏㅌᄐㅍᄑㅎᄒㅏᅡㅐᅢㅑᅣㅒᅤㅓᅥㅔᅦㅕᅧㅖᅨㅗᅩ",
  "ㅘᅪㅙᅫㅚᅬㅛᅭㅜᅮㅝᅯㅞᅰㅟᅱㅠᅲㅡᅳㅢᅴㅣᅵㅥᄔㅦᄕㅧᇇㅨᇈㅩᇌㅪᇎㅫᇓㅬᇗㅭᇙㅮᄜㅯᇝㅰᇟㅱᄝㅲᄞㅳᄠㅴᄢㅵᄣㅶᄧㅷᄩㅸᄫ",
  "ㅹᄬㅺᄭㅻᄮㅼᄯㅽᄲㅾᄶㅿᅀㆀᅇㆁᅌㆂᇱㆃᇲㆄᅗㆅᅘㆆᅙㆇᆄㆈᆅㆉᆈㆊᆑㆋᆒㆌᆔㆍᆞㆎᆡ㆒一㆓二㆔三㆕四㆖上㆗中㆘下㆙甲㆚乙㆛丙",
  "㆜丁㆝天㆞地㆟人㉄問㉅幼㉆文㉇箏㉠ᄀ㉡ᄂ㉢ᄃ㉣ᄅ㉤ᄆ㉥ᄇ㉦ᄉ㉧ᄋ㉨ᄌ㉩ᄎ㉪ᄏ㉫ᄐ㉬ᄑ㉭ᄒ㉮가㉯나㉰다㉱라㉲마㉳바㉴사㉵아㉶자㉷차",
  "㉸카㉹타㉺파㉻하㉾우㊀一㊁二㊂三㊃四㊄五㊅六㊆七㊇八㊈九㊉十㊊月㊋火㊌水㊍木㊎金㊏土㊐日㊑株㊒有㊓社㊔名㊕特㊖財㊗祝㊘労㊙秘㊚男",
  "㊛女㊜適㊝優㊞印㊟注㊠項㊡休㊢写㊣正㊤上㊥中㊦下㊧左㊨右㊩医㊪宗㊫学㊬監㊭企㊮資㊯協㊰夜㋐ア㋑イ㋒ウ㋓エ㋔オ㋕カ㋖キ㋗ク㋘ケ㋙コ",
  "㋚サ㋛シ㋜ス㋝セ㋞ソ㋟タ㋠チ㋡ツ㋢テ㋣ト㋤ナ㋥ニ㋦ヌ㋧ネ㋨ノ㋩ハ㋪ヒ㋫フ㋬ヘ㋭ホ㋮マ㋯ミ㋰ム㋱メ㋲モ㋳ヤ㋴ユ㋵ヨ㋶ラ㋷リ㋸ル㋹レ",
  "㋺ロ㋻ワ㋼ヰ㋽ヱ㋾ヲꙀꙁꙂꙃꙄꙅꙆꙇꙈꙉꙊꙋꙌꙍꙎꙏꙐꙑꙒꙓꙔꙕꙖꙗꙘꙙꙚꙛꙜꙝꙞꙟꙠꙡꙢꙣꙤꙥꙦꙧꙨꙩꙪꙫꙬꙭꚀꚁꚂꚃꚄꚅꚆꚇ",
  "ꚈꚉꚊꚋꚌꚍꚎꚏꚐꚑꚒꚓꚔꚕꚖꚗꚘꚙꚚꚛꚜъꚝьꜢꜣꜤꜥꜦꜧꜨꜩꜪꜫꜬꜭꜮꜯꜲꜳꜴꜵꜶꜷꜸꜹꜺꜻꜼꜽꜾꜿꝀꝁꝂꝃꝄꝅꝆꝇꝈꝉꝊꝋ",
  "ꝌꝍꝎꝏꝐꝑꝒꝓꝔꝕꝖꝗꝘꝙꝚꝛꝜꝝꝞꝟꝠꝡꝢꝣꝤꝥꝦꝧꝨꝩꝪꝫꝬꝭꝮꝯꝰꝯꝹꝺꝻꝼꝽᵹꝾꝿꞀꞁꞂꞃꞄꞅꞆꞇꞋꞌꞍɥꞐꞑꞒꞓꞖꞗ",
  "ꞘꞙꞚꞛꞜꞝꞞꞟꞠꞡꞢꞣꞤꞥꞦꞧꞨꞩꞪɦꞫɜꞬɡꞭɬꞮɪꞰʞꞱʇꞲʝꞳꭓꞴꞵꞶꞷꞸꞹꞺꞻꞼꞽꞾꞿꟀꟁꟂꟃꟄꞔꟅʂꟆᶎꟇꟈꟉꟊꟐꟑ",
  "ꟖꟗꟘꟙꟲcꟳfꟴqꟵꟶꟸħꟹœꭜꜧꭝꬷꭞɫꭟꭒꭩʍꭰᎠꭱᎡꭲᎢꭳᎣꭴᎤꭵᎥꭶᎦꭷᎧꭸᎨꭹᎩꭺᎪꭻᎫꭼᎬꭽᎭꭾᎮꭿᎯꮀᎰꮁᎱꮂᎲ",
  "ꮃᎳꮄᎴꮅᎵꮆᎶꮇᎷꮈᎸꮉᎹꮊᎺꮋᎻꮌᎼꮍᎽꮎᎾꮏᎿꮐᏀꮑᏁꮒᏂꮓᏃꮔᏄꮕᏅꮖᏆꮗᏇꮘᏈꮙᏉꮚᏊꮛᏋꮜᏌꮝᏍꮞᏎꮟᏏꮠᏐꮡᏑꮢᏒ",
  "ꮣᏓꮤᏔꮥᏕꮦᏖꮧᏗꮨᏘꮩᏙꮪᏚꮫᏛꮬᏜꮭᏝꮮᏞꮯᏟꮰᏠꮱᏡꮲᏢꮳᏣꮴᏤꮵᏥꮶᏦꮷᏧꮸᏨꮹᏩꮺᏪꮻᏫꮼᏬꮽᏭꮾᏮꮿᏯ豈豈更更車車",
  "賈賈滑滑串串句句龜龜龜龜契契金金喇喇奈奈懶懶癩癩羅羅蘿蘿螺螺裸裸邏邏樂樂洛洛烙烙珞珞落落酪酪駱駱亂亂卵卵欄欄爛爛蘭蘭鸞鸞嵐嵐濫濫",
  "藍藍襤襤拉拉臘臘蠟蠟廊廊朗朗浪浪狼狼郎郎來來冷冷勞勞擄擄櫓櫓爐爐盧盧老老蘆蘆虜虜路路露露魯魯鷺鷺碌碌祿祿綠綠菉菉錄錄鹿鹿論論壟壟",
  "弄弄籠籠聾聾牢牢磊磊賂賂雷雷壘壘屢屢樓樓淚淚漏漏累累縷縷陋陋勒勒肋肋凜凜凌凌稜稜綾綾菱菱陵陵讀讀拏拏樂樂諾諾丹丹寧寧怒怒率率異異",
  "北北磻磻便便復復不不泌泌數數索索參參塞塞省省葉葉說說殺殺辰辰沈沈拾拾若若掠掠略略亮亮兩兩凉凉梁梁糧糧良良諒諒量量勵勵呂呂女女廬廬",
  "旅旅濾濾礪礪閭閭驪驪麗麗黎黎力力曆曆歷歷轢轢年年憐憐戀戀撚撚漣漣煉煉璉璉秊秊練練聯聯輦輦蓮蓮連連鍊鍊列列劣劣咽咽烈烈裂裂說說廉廉",
  "念念捻捻殮殮簾簾獵獵令令囹囹寧寧嶺嶺怜怜玲玲瑩瑩羚羚聆聆鈴鈴零零靈靈領領例例禮禮醴醴隸隸惡惡了了僚僚寮寮尿尿料料樂樂燎燎療療蓼蓼",
  "遼遼龍龍暈暈阮阮劉劉杻杻柳柳流流溜溜琉琉留留硫硫紐紐類類六六戮戮陸陸倫倫崙崙淪淪輪輪律律慄慄栗栗率率隆隆利利吏吏履履易易李李梨梨",
  "泥泥理理痢痢罹罹裏裏裡裡里里離離匿匿溺溺吝吝燐燐璘璘藺藺隣隣鱗鱗麟麟林林淋淋臨臨立立笠笠粒粒狀狀炙炙識識什什茶茶刺刺切切度度拓拓",
  "糖糖宅宅洞洞暴暴輻輻行行降降見見廓廓兀兀嗀嗀塚塚晴晴凞凞猪猪益益礼礼神神祥祥福福靖靖精精羽羽蘒蘒諸諸逸逸都都飯飯飼飼館館鶴鶴郞郞",
  "隷隷侮侮僧僧免免勉勉勤勤卑卑喝喝嘆嘆器器塀塀墨墨層層屮屮悔悔慨慨憎憎懲懲敏敏既既暑暑梅梅海海渚渚漢漢煮煮爫爫琢琢碑碑社社祉祉祈祈",
  "祐祐祖祖祝祝禍禍禎禎穀穀突突節節練練縉縉繁繁署署者者臭臭艹艹艹艹著著褐褐視視謁謁謹謹賓賓贈贈辶辶逸逸難難響響頻頻恵恵𤋮𤋮舘舘並並",
  "况况全全侀侀充充冀冀勇勇勺勺喝喝啕啕喙喙嗢嗢塚塚墳墳奄奄奔奔婢婢嬨嬨廒廒廙廙彩彩徭徭惘惘慎慎愈愈憎憎慠慠懲懲戴戴揄揄搜搜摒摒敖敖",
  "晴晴朗朗望望杖杖歹歹殺殺流流滛滛滋滋漢漢瀞瀞煮煮瞧瞧爵爵犯犯猪猪瑱瑱甆甆画画瘝瘝瘟瘟益益盛盛直直睊睊着着磌磌窱窱節節类类絛絛練練",
  "缾缾者者荒荒華華蝹蝹襁襁覆覆視視調調諸諸請請謁謁諾諾諭諭謹謹變變贈贈輸輸遲遲醙醙鉶鉶陼陼難難靖靖韛韛響響頋頋頻頻鬒鬒龜龜𢡊𢡊𢡄𢡄",
  "𣏕𣏕㮝㮝䀘䀘䀹䀹𥉉𥉉𥳐𥳐𧻓𧻓齃齃龎龎ﬠעﬡאﬢדﬣהﬤכﬥלﬦםﬧרﬨת﬩+ﭐٱﭑٱﭒٻﭓٻﭔٻﭕٻﭖپﭗپﭘپﭙپﭚڀﭛڀﭜڀ",
  "ﭝڀﭞٺﭟٺﭠٺﭡٺﭢٿﭣٿﭤٿﭥٿﭦٹﭧٹﭨٹﭩٹﭪڤﭫڤﭬڤﭭڤﭮڦﭯڦﭰڦﭱڦﭲڄﭳڄﭴڄﭵڄﭶڃﭷڃﭸڃﭹڃﭺچﭻچﭼچ",
  "ﭽچﭾڇﭿڇﮀڇﮁڇﮂڍﮃڍﮄڌﮅڌﮆڎﮇڎﮈڈﮉڈﮊژﮋژﮌڑﮍڑﮎکﮏکﮐکﮑکﮒگﮓگﮔگﮕگﮖڳﮗڳﮘڳﮙڳﮚڱﮛڱﮜڱ",
  "ﮝڱﮞںﮟںﮠڻﮡڻﮢڻﮣڻﮤۀﮥۀﮦہﮧہﮨہﮩہﮪھﮫھﮬھﮭھﮮےﮯےﮰۓﮱۓﯓڭﯔڭﯕڭﯖڭﯗۇﯘۇﯙۆﯚۆﯛۈﯜۈﯞۋ",
  "ﯟۋﯠۅﯡۅﯢۉﯣۉﯤېﯥېﯦېﯧېﯨىﯩىﯼیﯽیﯾیﯿی︐,︑、︒。︓:︔;︕!︖?︗〖︘〗︱—︲–︳_︴_︵(︶)︷\x7b︸\x7d",
  "︹〔︺〕︻【︼】︽《︾》︿〈﹀〉﹁「﹂」﹃『﹄』﹇[﹈]﹍_﹎_﹏_﹐,﹑、﹒.﹔;﹕:﹖?﹗!﹘—﹙(﹚)﹛\x7b﹜\x7d﹝〔﹞〕﹟#",
  "﹠&﹡*﹢+﹣-﹤<﹥>﹦=﹨\\﹩$﹪%﹫@ﺀءﺁآﺂآﺃأﺄأﺅؤﺆؤﺇإﺈإﺉئﺊئﺋئﺌئﺍاﺎاﺏبﺐبﺑبﺒبﺓةﺔة",
  "ﺕتﺖتﺗتﺘتﺙثﺚثﺛثﺜثﺝجﺞجﺟجﺠجﺡحﺢحﺣحﺤحﺥخﺦخﺧخﺨخﺩدﺪدﺫذﺬذﺭرﺮرﺯزﺰزﺱسﺲسﺳسﺴس",
  "ﺵشﺶشﺷشﺸشﺹصﺺصﺻصﺼصﺽضﺾضﺿضﻀضﻁطﻂطﻃطﻄطﻅظﻆظﻇظﻈظﻉعﻊعﻋعﻌعﻍغﻎغﻏغﻐغﻑفﻒفﻓفﻔف",
  "ﻕقﻖقﻗقﻘقﻙكﻚكﻛكﻜكﻝلﻞلﻟلﻠلﻡمﻢمﻣمﻤمﻥنﻦنﻧنﻨنﻩهﻪهﻫهﻬهﻭوﻮوﻯىﻰىﻱيﻲيﻳيﻴي",
  "！!＂\"＃#＄$％%＆&＇'（(）)＊*＋+，,－-．.／/０0１1２2３3４4５5６6７7８8９9：:；;＜<＝=＞>？?＠@",
  "ＡaＢbＣcＤdＥeＦfＧgＨhＩiＪjＫkＬlＭmＮnＯoＰpＱqＲrＳsＴtＵuＶvＷwＸxＹyＺz［[＼\\］]＾^＿_｀\x60",
  "ａaｂbｃcｄdｅeｆfｇgｈhｉiｊjｋkｌlｍmｎnｏoｐpｑqｒrｓsｔtｕuｖvｗwｘxｙyｚz｛\x7b｜|｝\x7d～~｟⦅｠⦆",
  "｡。｢「｣」､、･・ｦヲｧァｨィｩゥｪェｫォｬャｭュｮョｯッｰーｱアｲイｳウｴエｵオｶカｷキｸクｹケｺコｻサｼシｽスｾセｿソﾀタ",
  "ﾁチﾂツﾃテﾄトﾅナﾆニﾇヌﾈネﾉノﾊハﾋヒﾌフﾍヘﾎホﾏマﾐミﾑムﾒメﾓモﾔヤﾕユﾖヨﾗラﾘリﾙルﾚレﾛロﾜワﾝンﾞ゙ﾟ゚ﾡᄀ",
  "ﾢᄁﾣᆪﾤᄂﾥᆬﾦᆭﾧᄃﾨᄄﾩᄅﾪᆰﾫᆱﾬᆲﾭᆳﾮᆴﾯᆵﾰᄚﾱᄆﾲᄇﾳᄈﾴᄡﾵᄉﾶᄊﾷᄋﾸᄌﾹᄍﾺᄎﾻᄏﾼᄐﾽᄑﾾᄒￂᅡￃᅢￄᅣ",
  "ￅᅤￆᅥￇᅦￊᅧￋᅨￌᅩￍᅪￎᅫￏᅬￒᅭￓᅮￔᅯￕᅰￖᅱￗᅲￚᅳￛᅴￜᅵ￠¢￡£￢¬￤¦￥¥￦₩￨│￩←￪↑￫→￬↓￭■￮○𐐀𐐨",
  "𐐁𐐩𐐂𐐪𐐃𐐫𐐄𐐬𐐅𐐭𐐆𐐮𐐇𐐯𐐈𐐰𐐉𐐱𐐊𐐲𐐋𐐳𐐌𐐴𐐍𐐵𐐎𐐶𐐏𐐷𐐐𐐸𐐑𐐹𐐒𐐺𐐓𐐻𐐔𐐼𐐕𐐽𐐖𐐾𐐗𐐿𐐘𐑀𐐙𐑁𐐚𐑂𐐛𐑃𐐜𐑄𐐝𐑅𐐞𐑆𐐟𐑇𐐠𐑈",
  "𐐡𐑉𐐢𐑊𐐣𐑋𐐤𐑌𐐥𐑍𐐦𐑎𐐧𐑏𐒰𐓘𐒱𐓙𐒲𐓚𐒳𐓛𐒴𐓜𐒵𐓝𐒶𐓞𐒷𐓟𐒸𐓠𐒹𐓡𐒺𐓢𐒻𐓣𐒼𐓤𐒽𐓥𐒾𐓦𐒿𐓧𐓀𐓨𐓁𐓩𐓂𐓪𐓃𐓫𐓄𐓬𐓅𐓭𐓆𐓮𐓇𐓯𐓈𐓰",
  "𐓉𐓱𐓊𐓲𐓋𐓳𐓌𐓴𐓍𐓵𐓎𐓶𐓏𐓷𐓐𐓸𐓑𐓹𐓒𐓺𐓓𐓻𐕰𐖗𐕱𐖘𐕲𐖙𐕳𐖚𐕴𐖛𐕵𐖜𐕶𐖝𐕷𐖞𐕸𐖟𐕹𐖠𐕺𐖡𐕼𐖣𐕽𐖤𐕾𐖥𐕿𐖦𐖀𐖧𐖁𐖨𐖂𐖩𐖃𐖪𐖄𐖫𐖅𐖬",
  "𐖆𐖭𐖇𐖮𐖈𐖯𐖉𐖰𐖊𐖱𐖌𐖳𐖍𐖴𐖎𐖵𐖏𐖶𐖐𐖷𐖑𐖸𐖒𐖹𐖔𐖻𐖕𐖼𐞁ː𐞂ˑ𐞃æ𐞄ʙ𐞅ɓ𐞇ʣ𐞈ꭦ𐞉ʥ𐞊ʤ𐞋ɖ𐞌ɗ𐞍ᶑ𐞎ɘ𐞏ɞ𐞐ʩ𐞑ɤ𐞒ɢ𐞓ɠ",
  "𐞔ʛ𐞕ħ𐞖ʜ𐞗ɧ𐞘ʄ𐞙ʪ𐞚ʫ𐞛ɬ𐞜𝼄𐞝ꞎ𐞞ɮ𐞟𝼅𐞠ʎ𐞡𝼆𐞢ø𐞣ɶ𐞤ɷ𐞥q𐞦ɺ𐞧𝼈𐞨ɽ𐞩ɾ𐞪ʀ𐞫ʨ𐞬ʦ𐞭ꭧ𐞮ʧ𐞯ʈ𐞰ⱱ𐞲ʏ𐞳ʡ𐞴ʢ",
  "𐞵ʘ𐞶ǀ𐞷ǁ𐞸ǂ𐞹𝼊𐞺𝼞𐲀𐳀𐲁𐳁𐲂𐳂𐲃𐳃𐲄𐳄𐲅𐳅𐲆𐳆𐲇𐳇𐲈𐳈𐲉𐳉𐲊𐳊𐲋𐳋𐲌𐳌𐲍𐳍𐲎𐳎𐲏𐳏𐲐𐳐𐲑𐳑𐲒𐳒𐲓𐳓𐲔𐳔𐲕𐳕𐲖𐳖𐲗𐳗𐲘𐳘𐲙𐳙",
  "𐲚𐳚𐲛𐳛𐲜𐳜𐲝𐳝𐲞𐳞𐲟𐳟𐲠𐳠𐲡𐳡𐲢𐳢𐲣𐳣𐲤𐳤𐲥𐳥𐲦𐳦𐲧𐳧𐲨𐳨𐲩𐳩𐲪𐳪𐲫𐳫𐲬𐳬𐲭𐳭𐲮𐳮𐲯𐳯𐲰𐳰𐲱𐳱𐲲𐳲𑢠𑣀𑢡𑣁𑢢𑣂𑢣𑣃𑢤𑣄𑢥𑣅𑢦𑣆",
  "𑢧𑣇𑢨𑣈𑢩𑣉𑢪𑣊𑢫𑣋𑢬𑣌𑢭𑣍𑢮𑣎𑢯𑣏𑢰𑣐𑢱𑣑𑢲𑣒𑢳𑣓𑢴𑣔𑢵𑣕𑢶𑣖𑢷𑣗𑢸𑣘𑢹𑣙𑢺𑣚𑢻𑣛𑢼𑣜𑢽𑣝𑢾𑣞𑢿𑣟𖹀𖹠𖹁𖹡𖹂𖹢𖹃𖹣𖹄𖹤𖹅𖹥𖹆𖹦",
  "𖹇𖹧𖹈𖹨𖹉𖹩𖹊𖹪𖹋𖹫𖹌𖹬𖹍𖹭𖹎𖹮𖹏𖹯𖹐𖹰𖹑𖹱𖹒𖹲𖹓𖹳𖹔𖹴𖹕𖹵𖹖𖹶𖹗𖹷𖹘𖹸𖹙𖹹𖹚𖹺𖹛𖹻𖹜𖹼𖹝𖹽𖹞𖹾𖹟𖹿𝐀a𝐁b𝐂c𝐃d𝐄e𝐅f𝐆g",
  "𝐇h𝐈i𝐉j𝐊k𝐋l𝐌m𝐍n𝐎o𝐏p𝐐q𝐑r𝐒s𝐓t𝐔u𝐕v𝐖w𝐗x𝐘y𝐙z𝐚a𝐛b𝐜c𝐝d𝐞e𝐟f𝐠g𝐡h𝐢i𝐣j𝐤k𝐥l𝐦m",
  "𝐧n𝐨o𝐩p𝐪q𝐫r𝐬s𝐭t𝐮u𝐯v𝐰w𝐱x𝐲y𝐳z𝐴a𝐵b𝐶c𝐷d𝐸e𝐹f𝐺g𝐻h𝐼i𝐽j𝐾k𝐿l𝑀m𝑁n𝑂o𝑃p𝑄q𝑅r𝑆s",
  "𝑇t𝑈u𝑉v𝑊w𝑋x𝑌y𝑍z𝑎a𝑏b𝑐c𝑑d𝑒e𝑓f𝑔g𝑖i𝑗j𝑘k𝑙l𝑚m𝑛n𝑜o𝑝p𝑞q𝑟r𝑠s𝑡t𝑢u𝑣v𝑤w𝑥x𝑦y𝑧z",
  "𝑨a𝑩b𝑪c𝑫d𝑬e𝑭f𝑮g𝑯h𝑰i𝑱j𝑲k𝑳l𝑴m𝑵n𝑶o𝑷p𝑸q𝑹r𝑺s𝑻t𝑼u𝑽v𝑾w𝑿x𝒀y𝒁z𝒂a𝒃b𝒄c𝒅d𝒆e𝒇f",
  "𝒈g𝒉h𝒊i𝒋j𝒌k𝒍l𝒎m𝒏n𝒐o𝒑p𝒒q𝒓r𝒔s𝒕t𝒖u𝒗v𝒘w𝒙x𝒚y𝒛z𝒜a𝒞c𝒟d𝒢g𝒥j𝒦k𝒩n𝒪o𝒫p𝒬q𝒮s𝒯t",
  "𝒰u𝒱v𝒲w𝒳x𝒴y𝒵z𝒶a𝒷b𝒸c𝒹d𝒻f𝒽h𝒾i𝒿j𝓀k𝓁l𝓂m𝓃n𝓅p𝓆q𝓇r𝓈s𝓉t𝓊u𝓋v𝓌w𝓍x𝓎y𝓏z𝓐a𝓑b𝓒c",
  "𝓓d𝓔e𝓕f𝓖g𝓗h𝓘i𝓙j𝓚k𝓛l𝓜m𝓝n𝓞o𝓟p𝓠q𝓡r𝓢s𝓣t𝓤u𝓥v𝓦w𝓧x𝓨y𝓩z𝓪a𝓫b𝓬c𝓭d𝓮e𝓯f𝓰g𝓱h𝓲i",
  "𝓳j𝓴k𝓵l𝓶m𝓷n𝓸o𝓹p𝓺q𝓻r𝓼s𝓽t𝓾u𝓿v𝔀w𝔁x𝔂y𝔃z𝔄a𝔅b𝔇d𝔈e𝔉f𝔊g𝔍j𝔎k𝔏l𝔐m𝔑n𝔒o𝔓p𝔔q𝔖s",
  "𝔗t𝔘u𝔙v𝔚w𝔛x𝔜y𝔞a𝔟b𝔠c𝔡d𝔢e𝔣f𝔤g𝔥h𝔦i𝔧j𝔨k𝔩l𝔪m𝔫n𝔬o𝔭p𝔮q𝔯r𝔰s𝔱t𝔲u𝔳v𝔴w𝔵x𝔶y𝔷z",
  "𝔸a𝔹b𝔻d𝔼e𝔽f𝔾g𝕀i𝕁j𝕂k𝕃l𝕄m𝕆o𝕊s𝕋t𝕌u𝕍v𝕎w𝕏x𝕐y𝕒a𝕓b𝕔c𝕕d𝕖e𝕗f𝕘g𝕙h𝕚i𝕛j𝕜k𝕝l𝕞m",
  "𝕟n𝕠o𝕡p𝕢q𝕣r𝕤s𝕥t𝕦u𝕧v𝕨w𝕩x𝕪y𝕫z𝕬a𝕭b𝕮c𝕯d𝕰e𝕱f𝕲g𝕳h𝕴i𝕵j𝕶k𝕷l𝕸m𝕹n𝕺o𝕻p𝕼q𝕽r𝕾s",
  "𝕿t𝖀u𝖁v𝖂w𝖃x𝖄y𝖅z𝖆a𝖇b𝖈c𝖉d𝖊e𝖋f𝖌g𝖍h𝖎i𝖏j𝖐k𝖑l𝖒m𝖓n𝖔o𝖕p𝖖q𝖗r𝖘s𝖙t𝖚u𝖛v𝖜w𝖝x𝖞y",
  "𝖟z𝖠a𝖡b𝖢c𝖣d𝖤e𝖥f𝖦g𝖧h𝖨i𝖩j𝖪k𝖫l𝖬m𝖭n𝖮o𝖯p𝖰q𝖱r𝖲s𝖳t𝖴u𝖵v𝖶w𝖷x𝖸y𝖹z𝖺a𝖻b𝖼c𝖽d𝖾e",
  "𝖿f𝗀g𝗁h𝗂i𝗃j𝗄k𝗅l𝗆m𝗇n𝗈o𝗉p𝗊q𝗋r𝗌s𝗍t𝗎u𝗏v𝗐w𝗑x𝗒y𝗓z𝗔a𝗕b𝗖c𝗗d𝗘e𝗙f𝗚g𝗛h𝗜i𝗝j𝗞k",
  "𝗟l𝗠m𝗡n𝗢o𝗣p𝗤q𝗥r𝗦s𝗧t𝗨u𝗩v𝗪w𝗫x𝗬y𝗭z𝗮a𝗯b𝗰c𝗱d𝗲e𝗳f𝗴g𝗵h𝗶i𝗷j𝗸k𝗹l𝗺m𝗻n𝗼o𝗽p𝗾q",
  "𝗿r𝘀s𝘁t𝘂u𝘃v𝘄w𝘅x𝘆y𝘇z𝘈a𝘉b𝘊c𝘋d𝘌e𝘍f𝘎g𝘏h𝘐i𝘑j𝘒k𝘓l𝘔m𝘕n𝘖o𝘗p𝘘q𝘙r𝘚s𝘛t𝘜u𝘝v𝘞w",
  "𝘟x𝘠y𝘡z𝘢a𝘣b𝘤c𝘥d𝘦e𝘧f𝘨g𝘩h𝘪i𝘫j𝘬k𝘭l𝘮m𝘯n𝘰o𝘱p𝘲q𝘳r𝘴s𝘵t𝘶u𝘷v𝘸w𝘹x𝘺y𝘻z𝘼a𝘽b𝘾c",
  "𝘿d𝙀e𝙁f𝙂g𝙃h𝙄i𝙅j𝙆k𝙇l𝙈m𝙉n𝙊o𝙋p𝙌q𝙍r𝙎s𝙏t𝙐u𝙑v𝙒w𝙓x𝙔y𝙕z𝙖a𝙗b𝙘c𝙙d𝙚e𝙛f𝙜g𝙝h𝙞i",
  "𝙟j𝙠k𝙡l𝙢m𝙣n𝙤o𝙥p𝙦q𝙧r𝙨s𝙩t𝙪u𝙫v𝙬w𝙭x𝙮y𝙯z𝙰a𝙱b𝙲c𝙳d𝙴e𝙵f𝙶g𝙷h𝙸i𝙹j𝙺k𝙻l𝙼m𝙽n𝙾o",
  "𝙿p𝚀q𝚁r𝚂s𝚃t𝚄u𝚅v𝚆w𝚇x𝚈y𝚉z𝚊a𝚋b𝚌c𝚍d𝚎e𝚏f𝚐g𝚑h𝚒i𝚓j𝚔k𝚕l𝚖m𝚗n𝚘o𝚙p𝚚q𝚛r𝚜s𝚝t𝚞u",
  "𝚟v𝚠w𝚡x𝚢y𝚣z𝚤ı𝚥ȷ𝚨α𝚩β𝚪γ𝚫δ𝚬ε𝚭ζ𝚮η𝚯θ𝚰ι𝚱κ𝚲λ𝚳μ𝚴ν𝚵ξ𝚶ο𝚷π𝚸ρ𝚹θ𝚺σ𝚻τ𝚼υ𝚽φ𝚾χ𝚿ψ𝛀ω",
  "𝛁∇𝛂α𝛃β𝛄γ𝛅δ𝛆ε𝛇ζ𝛈η𝛉θ𝛊ι𝛋κ𝛌λ𝛍μ𝛎ν𝛏ξ𝛐ο𝛑π𝛒ρ𝛓σ𝛔σ𝛕τ𝛖υ𝛗φ𝛘χ𝛙ψ𝛚ω𝛛∂𝛜ε𝛝θ𝛞κ𝛟φ𝛠ρ",
  "𝛡π𝛢α𝛣β𝛤γ𝛥δ𝛦ε𝛧ζ𝛨η𝛩θ𝛪ι𝛫κ𝛬λ𝛭μ𝛮ν𝛯ξ𝛰ο𝛱π𝛲ρ𝛳θ𝛴σ𝛵τ𝛶υ𝛷φ𝛸χ𝛹ψ𝛺ω𝛻∇𝛼α𝛽β𝛾γ𝛿δ𝜀ε",
  "𝜁ζ𝜂η𝜃θ𝜄ι𝜅κ𝜆λ𝜇μ𝜈ν𝜉ξ𝜊ο𝜋π𝜌ρ𝜍σ𝜎σ𝜏τ𝜐υ𝜑φ𝜒χ𝜓ψ𝜔ω𝜕∂𝜖ε𝜗θ𝜘κ𝜙φ𝜚ρ𝜛π𝜜α𝜝β𝜞γ𝜟δ𝜠ε",
  "𝜡ζ𝜢η𝜣θ𝜤ι𝜥κ𝜦λ𝜧μ𝜨ν𝜩ξ𝜪ο𝜫π𝜬ρ𝜭θ𝜮σ𝜯τ𝜰υ𝜱φ𝜲χ𝜳ψ𝜴ω𝜵∇𝜶α𝜷β𝜸γ𝜹δ𝜺ε𝜻ζ𝜼η𝜽θ𝜾ι𝜿κ𝝀λ",
  "𝝁μ𝝂ν𝝃ξ𝝄ο𝝅π𝝆ρ𝝇σ𝝈σ𝝉τ𝝊υ𝝋φ𝝌χ𝝍ψ𝝎ω𝝏∂𝝐ε𝝑θ𝝒κ𝝓φ𝝔ρ𝝕π𝝖α𝝗β𝝘γ𝝙δ𝝚ε𝝛ζ𝝜η𝝝θ𝝞ι𝝟κ𝝠λ",
  "𝝡μ𝝢ν𝝣ξ𝝤ο𝝥π𝝦ρ𝝧θ𝝨σ𝝩τ𝝪υ𝝫φ𝝬χ𝝭ψ𝝮ω𝝯∇𝝰α𝝱β𝝲γ𝝳δ𝝴ε𝝵ζ𝝶η𝝷θ𝝸ι𝝹κ𝝺λ𝝻μ𝝼ν𝝽ξ𝝾ο𝝿π𝞀ρ",
  "𝞁σ𝞂σ𝞃τ𝞄υ𝞅φ𝞆χ𝞇ψ𝞈ω𝞉∂𝞊ε𝞋θ𝞌κ𝞍φ𝞎ρ𝞏π𝞐α𝞑β𝞒γ𝞓δ𝞔ε𝞕ζ𝞖η𝞗θ𝞘ι𝞙κ𝞚λ𝞛μ𝞜ν𝞝ξ𝞞ο𝞟π𝞠ρ",
  "𝞡θ𝞢σ𝞣τ𝞤υ𝞥φ𝞦χ𝞧ψ𝞨ω𝞩∇𝞪α𝞫β𝞬γ𝞭δ𝞮ε𝞯ζ𝞰η𝞱θ𝞲ι𝞳κ𝞴λ𝞵μ𝞶ν𝞷ξ𝞸ο𝞹π𝞺ρ𝞻σ𝞼σ𝞽τ𝞾υ𝞿φ𝟀χ",
  "𝟁ψ𝟂ω𝟃∂𝟄ε𝟅θ𝟆κ𝟇φ𝟈ρ𝟉π𝟊ϝ𝟋ϝ𝟎0𝟏1𝟐2𝟑3𝟒4𝟓5𝟔6𝟕7𝟖8𝟗9𝟘0𝟙1𝟚2𝟛3𝟜4𝟝5𝟞6𝟟7𝟠8𝟡9𝟢0",
  "𝟣1𝟤2𝟥3𝟦4𝟧5𝟨6𝟩7𝟪8𝟫9𝟬0𝟭1𝟮2𝟯3𝟰4𝟱5𝟲6𝟳7𝟴8𝟵9𝟶0𝟷1𝟸2𝟹3𝟺4𝟻5𝟼6𝟽7𝟾8𝟿9𞀰а𞀱б𞀲в",
  "𞀳г𞀴д𞀵е𞀶ж𞀷з𞀸и𞀹к𞀺л𞀻м𞀼о𞀽п𞀾р𞀿с𞁀т𞁁у𞁂ф𞁃х𞁄ц𞁅ч𞁆ш𞁇ы𞁈э𞁉ю𞁊ꚉ𞁋ә𞁌і𞁍ј𞁎ө𞁏ү𞁐ӏ𞁑а𞁒б",
  "𞁓в𞁔г𞁕д𞁖е𞁗ж𞁘з𞁙и𞁚к𞁛л𞁜о𞁝п𞁞с𞁟у𞁠ф𞁡х𞁢ц𞁣ч𞁤ш𞁥ъ𞁦ы𞁧ґ𞁨і𞁩ѕ𞁪џ𞁫ҫ𞁬ꙑ𞁭ұ𞤀𞤢𞤁𞤣𞤂𞤤𞤃𞤥𞤄𞤦",
  "𞤅𞤧𞤆𞤨𞤇𞤩𞤈𞤪𞤉𞤫𞤊𞤬𞤋𞤭𞤌𞤮𞤍𞤯𞤎𞤰𞤏𞤱𞤐𞤲𞤑𞤳𞤒𞤴𞤓𞤵𞤔𞤶𞤕𞤷𞤖𞤸𞤗𞤹𞤘𞤺𞤙𞤻𞤚𞤼𞤛𞤽𞤜𞤾𞤝𞤿𞤞𞥀𞤟𞥁𞤠𞥂𞤡𞥃𞸀ا𞸁ب𞸂ج",
  "𞸃د𞸅و𞸆ز𞸇ح𞸈ط𞸉ي𞸊ك𞸋ل𞸌م𞸍ن𞸎س𞸏ع𞸐ف𞸑ص𞸒ق𞸓ر𞸔ش𞸕ت𞸖ث𞸗خ𞸘ذ𞸙ض𞸚ظ𞸛غ𞸜ٮ𞸝ں𞸞ڡ𞸟ٯ𞸡ب𞸢ج𞸤ه𞸧ح",
  "𞸩ي𞸪ك𞸫ل𞸬م𞸭ن𞸮س𞸯ع𞸰ف𞸱ص𞸲ق𞸴ش𞸵ت𞸶ث𞸷خ𞸹ض𞸻غ𞹂ج𞹇ح𞹉ي𞹋ل𞹍ن𞹎س𞹏ع𞹑ص𞹒ق𞹔ش𞹗خ𞹙ض𞹛غ𞹝ں𞹟ٯ𞹡ب",
  "𞹢ج𞹤ه𞹧ح𞹨ط𞹩ي𞹪ك𞹬م𞹭ن𞹮س𞹯ع𞹰ف𞹱ص𞹲ق𞹴ش𞹵ت𞹶ث𞹷خ𞹹ض𞹺ظ𞹻غ𞹼ٮ𞹾ڡ𞺀ا𞺁ب𞺂ج𞺃د𞺄ه𞺅و𞺆ز𞺇ح𞺈ط𞺉ي",
  "𞺋ل𞺌م𞺍ن𞺎س𞺏ع𞺐ف𞺑ص𞺒ق𞺓ر𞺔ش𞺕ت𞺖ث𞺗خ𞺘ذ𞺙ض𞺚ظ𞺛غ𞺡ب𞺢ج𞺣د𞺥و𞺦ز𞺧ح𞺨ط𞺩ي𞺫ل𞺬م𞺭ن𞺮س𞺯ع𞺰ف𞺱ص",
  "𞺲ق𞺳ر𞺴ش𞺵ت𞺶ث𞺷خ𞺸ذ𞺹ض𞺺ظ𞺻غ🄫c🄬r🄰a🄱b🄲c🄳d🄴e🄵f🄶g🄷h🄸i🄹j🄺k🄻l🄼m🄽n🄾o🄿p🅀q🅁r🅂s🅃t",
  "🅄u🅅v🅆w🅇x🅈y🅉z🈂サ🈐手🈑字🈒双🈓デ🈔二🈕多🈖解🈗天🈘交🈙映🈚無🈛料🈜前🈝後🈞再🈟新🈠初🈡終🈢生🈣販🈤声🈥吹🈦演🈧投🈨捕",
  "🈩一🈪三🈫遊🈬左🈭中🈮右🈯指🈰走🈱打🈲禁🈳空🈴合🈵満🈶有🈷月🈸申🈹割🈺営🈻配🉐得🉑可🯰0🯱1🯲2🯳3🯴4🯵5🯶6🯷7🯸8🯹9丽丽",
  "丸丸乁乁𠄢𠄢你你侮侮侻侻倂倂偺偺備備僧僧像像㒞㒞𠘺𠘺免免兔兔兤兤具具𠔜𠔜㒹㒹內內再再𠕋𠕋冗冗冤冤仌仌冬冬况况𩇟𩇟凵凵刃刃㓟㓟刻刻",
  "剆剆割割剷剷㔕㔕勇勇勉勉勤勤勺勺包包匆匆北北卉卉卑卑博博即即卽卽卿卿卿卿卿卿𠨬𠨬灰灰及及叟叟𠭣𠭣叫叫叱叱吆吆咞咞吸吸呈呈周周咢咢",
  "哶哶唐唐啓啓啣啣善善善善喙喙喫喫喳喳嗂嗂圖圖嘆嘆圗圗噑噑噴噴切切壮壮城城埴埴堍堍型型堲堲報報墬墬𡓤𡓤売売壷壷夆夆多多夢夢奢奢𡚨𡚨",
  "𡛪𡛪姬姬娛娛娧娧姘姘婦婦㛮㛮㛼㛼嬈嬈嬾嬾嬾嬾𡧈𡧈寃寃寘寘寧寧寳寳𡬘𡬘寿寿将将当当尢尢㞁㞁屠屠屮屮峀峀岍岍𡷤𡷤嵃嵃𡷦𡷦嵮嵮嵫嵫嵼嵼",
  "巡巡巢巢㠯㠯巽巽帨帨帽帽幩幩㡢㡢𢆃𢆃㡼㡼庰庰庳庳庶庶廊廊𪎒𪎒廾廾𢌱𢌱𢌱𢌱舁舁弢弢弢弢㣇㣇𣊸𣊸𦇚𦇚形形彫彫㣣㣣徚徚忍忍志志忹忹悁悁",
  "㤺㤺㤜㤜悔悔𢛔𢛔惇惇慈慈慌慌慎慎慌慌慺慺憎憎憲憲憤憤憯憯懞懞懲懲懶懶成成戛戛扝扝抱抱拔拔捐捐𢬌𢬌挽挽拼拼捨捨掃掃揤揤𢯱𢯱搢搢揅揅",
  "掩掩㨮㨮摩摩摾摾撝撝摷摷㩬㩬敏敏敬敬𣀊𣀊旣旣書書晉晉㬙㬙暑暑㬈㬈㫤㫤冒冒冕冕最最暜暜肭肭䏙䏙朗朗望望朡朡杞杞杓杓𣏃𣏃㭉㭉柺柺枅枅",
  "桒桒梅梅𣑭𣑭梎梎栟栟椔椔㮝㮝楂楂榣榣槪槪檨檨𣚣𣚣櫛櫛㰘㰘次次𣢧𣢧歔歔㱎㱎歲歲殟殟殺殺殻殻𣪍𣪍𡴋𡴋𣫺𣫺汎汎𣲼𣲼沿沿泍泍汧汧洖洖派派",
  "海海流流浩浩浸浸涅涅𣴞𣴞洴洴港港湮湮㴳㴳滋滋滇滇𣻑𣻑淹淹潮潮𣽞𣽞𣾎𣾎濆濆瀹瀹瀞瀞瀛瀛㶖㶖灊灊災災灷灷炭炭𠔥𠔥煅煅𤉣𤉣熜熜𤎫𤎫爨爨",
  "爵爵牐牐𤘈𤘈犀犀犕犕𤜵𤜵𤠔𤠔獺獺王王㺬㺬玥玥㺸㺸㺸㺸瑇瑇瑜瑜瑱瑱璅璅瓊瓊㼛㼛甤甤𤰶𤰶甾甾𤲒𤲒異異𢆟𢆟瘐瘐𤾡𤾡𤾸𤾸𥁄𥁄㿼㿼䀈䀈直直",
  "𥃳𥃳𥃲𥃲𥄙𥄙𥄳𥄳眞眞真真真真睊睊䀹䀹瞋瞋䁆䁆䂖䂖𥐝𥐝硎硎碌碌磌磌䃣䃣𥘦𥘦祖祖𥚚𥚚𥛅𥛅福福秫秫䄯䄯穀穀穊穊穏穏𥥼𥥼𥪧𥪧𥪧𥪧竮竮䈂䈂",
  "𥮫𥮫篆篆築築䈧䈧𥲀𥲀糒糒䊠䊠糨糨糣糣紀紀𥾆𥾆絣絣䌁䌁緇緇縂縂繅繅䌴䌴𦈨𦈨𦉇𦉇䍙䍙𦋙𦋙罺罺𦌾𦌾羕羕翺翺者者𦓚𦓚𦔣𦔣聠聠𦖨𦖨聰聰𣍟𣍟",
  "䏕䏕育育脃脃䐋䐋脾脾媵媵𦞧𦞧𦞵𦞵𣎓𣎓𣎜𣎜舁舁舄舄辞辞䑫䑫芑芑芋芋芝芝劳劳花花芳芳芽芽苦苦𦬼𦬼若若茝茝荣荣莭莭茣茣莽莽菧菧著著荓荓",
  "菊菊菌菌菜菜𦰶𦰶𦵫𦵫𦳕𦳕䔫䔫蓱蓱蓳蓳蔖蔖𧏊𧏊蕤蕤𦼬𦼬䕝䕝䕡䕡𦾱𦾱𧃒𧃒䕫䕫虐虐虜虜虧虧虩虩蚩蚩蚈蚈蜎蜎蛢蛢蝹蝹蜨蜨蝫蝫螆螆䗗䗗蟡蟡",
  "蠁蠁䗹䗹衠衠衣衣𧙧𧙧裗裗裞裞䘵䘵裺裺㒻㒻𧢮𧢮𧥦𧥦䚾䚾䛇䛇誠誠諭諭變變豕豕𧲨𧲨貫貫賁賁贛贛起起𧼯𧼯𠠄𠠄跋跋趼趼跰跰𠣞𠣞軔軔輸輸𨗒𨗒",
  "𨗭𨗭邔邔郱郱鄑鄑𨜮𨜮鄛鄛鈸鈸鋗鋗鋘鋘鉼鉼鏹鏹鐕鐕𨯺𨯺開開䦕䦕閷閷𨵷𨵷䧦䧦雃雃嶲嶲霣霣𩅅𩅅𩈚𩈚䩮䩮䩶䩶韠韠𩐊𩐊䪲䪲𩒖𩒖頋頋頋頋頩頩",
  "𩖶𩖶飢飢䬳䬳餩餩馧馧駂駂駾駾䯎䯎𩬰𩬰鬒鬒鱀鱀鳽鳽䳎䳎䳭䳭鵧鵧𪃎𪃎䳸䳸𪄅𪄅𪈎𪈎𪊑𪊑麻麻䵖䵖黹黹黾黾鼅鼅鼏鼏鼖鼖鼻鼻𪘀𪘀"]

/-- Characters that stand for several others. -/
def foldedSequences : List (Char × String) := [
  ('¨', " ̈"), ('¯', " ̄"), ('´', " ́"), ('¸', " ̧"), ('¼', "1⁄4"), ('½', "1⁄2"), ('¾', "3⁄4"),
  ('İ', "i̇"), ('Ĳ', "ij"), ('ĳ', "ij"), ('Ŀ', "l·"), ('ŀ', "l·"), ('ŉ', "ʼn"), ('Ǆ', "dž"),
  ('ǅ', "dž"), ('ǆ', "dž"), ('Ǉ', "lj"), ('ǈ', "lj"), ('ǉ', "lj"), ('Ǌ', "nj"), ('ǋ', "nj"),
  ('ǌ', "nj"), ('Ǳ', "dz"), ('ǲ', "dz"), ('ǳ', "dz"), ('˘', " ̆"), ('˙', " ̇"), ('˚', " ̊"),
  ('˛', " ̨"), ('˜', " ̃"), ('˝', " ̋"), ('\u0344', "̈́"), ('ͺ', " ι"), ('΄', " ́"),
  ('΅', " ̈́"), ('և', "եւ"), ('ٵ', "اٴ"), ('ٶ', "وٴ"), ('ٷ', "ۇٴ"), ('ٸ', "يٴ"), ('क़', "क़"),
  ('ख़', "ख़"), ('ग़', "ग़"), ('ज़', "ज़"), ('ड़', "ड़"), ('ढ़', "ढ़"), ('फ़', "फ़"), ('य़', "य़"),
  ('ড়', "ড়"), ('ঢ়', "ঢ়"), ('য়', "য়"), ('ਲ਼', "ਲ਼"), ('ਸ਼', "ਸ਼"), ('ਖ਼', "ਖ਼"), ('ਗ਼', "ਗ਼"),
  ('ਜ਼', "ਜ਼"), ('ਫ਼', "ਫ਼"), ('ଡ଼', "ଡ଼"), ('ଢ଼', "ଢ଼"), ('ำ', "ํา"), ('ຳ', "ໍາ"), ('ໜ', "ຫນ"),
  ('ໝ', "ຫມ"), ('གྷ', "གྷ"), ('ཌྷ', "ཌྷ"), ('དྷ', "དྷ"), ('བྷ', "བྷ"), ('ཛྷ', "ཛྷ"), ('ཀྵ', "ཀྵ"),
  ('\u0f73', "ཱི"), ('\u0f75', "ཱུ"), ('\u0f76', "ྲྀ"), ('\u0f77', "ྲཱྀ"), ('\u0f78', "ླྀ"),
  ('\u0f79', "ླཱྀ"), ('\u0f81', "ཱྀ"), ('\u0f93', "ྒྷ"), ('\u0f9d', "ྜྷ"), ('\u0fa2', "ྡྷ"),
  ('\u0fa7', "ྦྷ"), ('\u0fac', "ྫྷ"), ('\u0fb9', "ྐྵ"), ('ẚ', "aʾ"), ('ᾀ', "ἀι"), ('ᾁ', "ἁι"),
  ('ᾂ', "ἂι"), ('ᾃ', "ἃι"), ('ᾄ', "ἄι"), ('ᾅ', "ἅι"), ('ᾆ', "ἆι"), ('ᾇ', "ἇι"), ('ᾈ', "ἀι"),
  ('ᾉ', "ἁι"), ('ᾊ', "ἂι"), ('ᾋ', "ἃι"), ('ᾌ', "ἄι"), ('ᾍ', "ἅι"), ('ᾎ', "ἆι"), ('ᾏ', "ἇι"),
  ('ᾐ', "ἠι"), ('ᾑ', "ἡι"), ('ᾒ', "ἢι"), ('ᾓ', "ἣι"), ('ᾔ', "ἤι"), ('ᾕ', "ἥι"), ('ᾖ', "ἦι"),
  ('ᾗ', "ἧι"), ('ᾘ', "ἠι"), ('ᾙ', "ἡι"), ('ᾚ', "ἢι"), ('ᾛ', "ἣι"), ('ᾜ', "ἤι"), ('ᾝ', "ἥι"),
  ('ᾞ', "ἦι"), ('ᾟ', "ἧι"), ('ᾠ', "ὠι"), ('ᾡ', "ὡι"), ('ᾢ', "ὢι"), ('ᾣ', "ὣι"), ('ᾤ', "ὤι"),
  ('ᾥ', "ὥι"), ('ᾦ', "ὦι"), ('ᾧ', "ὧι"), ('ᾨ', "ὠι"), ('ᾩ', "ὡι"), ('ᾪ', "ὢι"), ('ᾫ', "ὣι"),
  ('ᾬ', "ὤι"), ('ᾭ', "ὥι"), ('ᾮ', "ὦι"), ('ᾯ', "ὧι"), ('ᾲ', "ὰι"), ('ᾳ', "αι"), ('ᾴ', "άι"),
  ('ᾷ', "ᾶι"), ('ᾼ', "αι"), ('᾽', " ̓"), ('᾿', " ̓"), ('῀', " ͂"), ('῁', " ̈͂"), ('ῂ', "ὴι"),
  ('ῃ', "ηι"), ('ῄ', "ήι"), ('ῇ', "ῆι"), ('ῌ', "ηι"), ('῍', " ̓̀"), ('῎', " ̓́"), ('῏', " ̓͂"),
  ('῝', " ̔̀"), ('῞', " ̔́"), ('῟', " ̔͂"), ('῭', " ̈̀"), ('΅', " ̈́"), ('ῲ', "ὼι"), ('ῳ', "ωι"),
  ('ῴ', "ώι"), ('ῷ', "ῶι"), ('ῼ', "ωι"), ('´', " ́"), ('῾', " ̔"), ('‗', " ̳"), ('‥', ".."),
  ('…', "..."), ('″', "′′"), ('‴', "′′′"), ('‶', "‵‵"), ('‷', "‵‵‵"), ('‼', "!!"), ('‾', " ̅"),
  ('⁇', "??"), ('⁈', "?!"), ('⁉', "!?"), ('⁗', "′′′′"), ('₨', "rs"), ('℀', "a/c"), ('℁', "a/s"),
  ('℃', "°c"), ('℅', "c/o"), ('℆', "c/u"), ('℉', "°f"), ('№', "no"), ('℠', "sm"), ('℡', "tel"),
  ('™', "tm"), ('℻', "fax"), ('⅐', "1⁄7"), ('⅑', "1⁄9"), ('⅒', "1⁄10"), ('⅓', "1⁄3"),
  ('⅔', "2⁄3"), ('⅕', "1⁄5"), ('⅖', "2⁄5"), ('⅗', "3⁄5"), ('⅘', "4⁄5"), ('⅙', "1⁄6"),
  ('⅚', "5⁄6"), ('⅛', "1⁄8"), ('⅜', "3⁄8"), ('⅝', "5⁄8"), ('⅞', "7⁄8"), ('⅟', "1⁄"), ('Ⅱ', "ii"),
  ('Ⅲ', "iii"), ('Ⅳ', "iv"), ('Ⅵ', "vi"), ('Ⅶ', "vii"), ('Ⅷ', "viii"), ('Ⅸ', "ix"), ('Ⅺ', "xi"),
  ('Ⅻ', "xii"), ('ⅱ', "ii"), ('ⅲ', "iii"), ('ⅳ', "iv"), ('ⅵ', "vi"), ('ⅶ', "vii"), ('ⅷ', "viii"),
  ('ⅸ', "ix"), ('ⅺ', "xi"), ('ⅻ', "xii"), ('↉', "0⁄3"), ('∬', "∫∫"), ('∭', "∫∫∫"), ('∯', "∮∮"),
  ('∰', "∮∮∮"), ('⑩', "10"), ('⑪', "11"), ('⑫', "12"), ('⑬', "13"), ('⑭', "14"), ('⑮', "15"),
  ('⑯', "16"), ('⑰', "17"), ('⑱', "18"), ('⑲', "19"), ('⑳', "20"), ('⑴', "(1)"), ('⑵', "(2)"),
  ('⑶', "(3)"), ('⑷', "(4)"), ('⑸', "(5)"), ('⑹', "(6)"), ('⑺', "(7)"), ('⑻', "(8)"),
  ('⑼', "(9)"), ('⑽', "(10)"), ('⑾', "(11)"), ('⑿', "(12)"), ('⒀', "(13)"), ('⒁', "(14)"),
  ('⒂', "(15)"), ('⒃', "(16)"), ('⒄', "(17)"), ('⒅', "(18)"), ('⒆', "(19)"), ('⒇', "(20)"),
  ('⒈', "1."), ('⒉', "2."), ('⒊', "3."), ('⒋', "4."), ('⒌', "5."), ('⒍', "6."), ('⒎', "7."),
  ('⒏', "8."), ('⒐', "9."), ('⒑', "10."), ('⒒', "11."), ('⒓', "12."), ('⒔', "13."), ('⒕', "14."),
  ('⒖', "15."), ('⒗', "16."), ('⒘', "17."), ('⒙', "18."), ('⒚', "19."), ('⒛', "20."),
  ('⒜', "(a)"), ('⒝', "(b)"), ('⒞', "(c)"), ('⒟', "(d)"), ('⒠', "(e)"), ('⒡', "(f)"),
  ('⒢', "(g)"), ('⒣', "(h)"), ('⒤', "(i)"), ('⒥', "(j)"), ('⒦', "(k)"), ('⒧', "(l)"),
  ('⒨', "(m)"), ('⒩', "(n)"), ('⒪', "(o)"), ('⒫', "(p)"), ('⒬', "(q)"), ('⒭', "(r)"),
  ('⒮', "(s)"), ('⒯', "(t)"), ('⒰', "(u)"), ('⒱', "(v)"), ('⒲', "(w)"), ('⒳', "(x)"),
  ('⒴', "(y)"), ('⒵', "(z)"), ('⨌', "∫∫∫∫"), ('⩴', "::="), ('⩵', "=="), ('⩶', "==="),
  ('⫝̸', "⫝̸"), ('゛', " ゙"), ('゜', " ゚"), ('ゟ', "より"), ('ヿ', "コト"), ('㈀', "(ᄀ)"), ('㈁', "(ᄂ)"),
  ('㈂', "(ᄃ)"), ('㈃', "(ᄅ)"), ('㈄', "(ᄆ)"), ('㈅', "(ᄇ)"), ('㈆', "(ᄉ)"), ('㈇', "(ᄋ)"),
  ('㈈', "(ᄌ)"), ('㈉', "(ᄎ)"), ('㈊', "(ᄏ)"), ('㈋', "(ᄐ)"), ('㈌', "(ᄑ)"), ('㈍', "(ᄒ)"),
  ('㈎', "(가)"), ('㈏', "(나)"), ('㈐', "(다)"), ('㈑', "(라)"), ('㈒', "(마)"), ('㈓', "(바)"),
  ('㈔', "(사)"), ('㈕', "(아)"), ('㈖', "(자)"), ('㈗', "(차)"), ('㈘', "(카)"), ('㈙', "(타)"),
  ('㈚', "(파)"), ('㈛', "(하)"), ('㈜', "(주)"), ('㈝', "(오전)"), ('㈞', "(오후)"), ('㈠', "(一)"),
  ('㈡', "(二)"), ('㈢', "(三)"), ('㈣', "(四)"), ('㈤', "(五)"), ('㈥', "(六)"), ('㈦', "(七)"),
  ('㈧', "(八)"), ('㈨', "(九)"), ('㈩', "(十)"), ('㈪', "(月)"), ('㈫', "(火)"), ('㈬', "(水)"),
  ('㈭', "(木)"), ('㈮', "(金)"), ('㈯', "(土)"), ('㈰', "(日)"), ('㈱', "(株)"), ('㈲', "(有)"),
  ('㈳', "(社)"), ('㈴', "(名)"), ('㈵', "(特)"), ('㈶', "(財)"), ('㈷', "(祝)"), ('㈸', "(労)"),
  ('㈹', "(代)"), ('㈺', "(呼)"), ('㈻', "(学)"), ('㈼', "(監)"), ('㈽', "(企)"), ('㈾', "(資)"),
  ('㈿', "(協)"), ('㉀', "(祭)"), ('㉁', "(休)"), ('㉂', "(自)"), ('㉃', "(至)"), ('㉐', "pte"),
  ('㉑', "21"), ('㉒', "22"), ('㉓', "23"), ('㉔', "24"), ('㉕', "25"), ('㉖', "26"), ('㉗', "27"),
  ('㉘', "28"), ('㉙', "29"), ('㉚', "30"), ('㉛', "31"), ('㉜', "32"), ('㉝', "33"), ('㉞', "34"),
  ('㉟', "35"), ('㉼', "참고"), ('㉽', "주의"), ('㊱', "36"), ('㊲', "37"), ('㊳', "38"), ('㊴', "39"),
  ('㊵', "40"), ('㊶', "41"), ('㊷', "42"), ('㊸', "43"), ('㊹', "44"), ('㊺', "45"), ('㊻', "46"),
  ('㊼', "47"), ('㊽', "48"), ('㊾', "49"), ('㊿', "50"), ('㋀', "1月"), ('㋁', "2月"), ('㋂', "3月"),
  ('㋃', "4月"), ('㋄', "5月"), ('㋅', "6月"), ('㋆', "7月"), ('㋇', "8月"), ('㋈', "9月"), ('㋉', "10月"),
  ('㋊', "11月"), ('㋋', "12月"), ('㋌', "hg"), ('㋍', "erg"), ('㋎', "ev"), ('㋏', "ltd"), ('㋿', "令和"),
  ('㌀', "アパート"), ('㌁', "アルファ"), ('㌂', "アンペア"), ('㌃', "アール"), ('㌄', "イニング"), ('㌅', "インチ"),
  ('㌆', "ウォン"), ('㌇', "エスクード"), ('㌈', "エーカー"), ('㌉', "オンス"), ('㌊', "オーム"), ('㌋', "カイリ"),
  ('㌌', "カラット"), ('㌍', "カロリー"), ('㌎', "ガロン"), ('㌏', "ガンマ"), ('㌐', "ギガ"), ('㌑', "ギニー"),
  ('㌒', "キュリー"), ('㌓', "ギルダー"), ('㌔', "キロ"), ('㌕', "キログラム"), ('㌖', "キロメートル"), ('㌗', "キロワット"),
  ('㌘', "グラム"), ('㌙', "グラムトン"), ('㌚', "クルゼイロ"), ('㌛', "クローネ"), ('㌜', "ケース"), ('㌝', "コルナ"),
  ('㌞', "コーポ"), ('㌟', "サイクル"), ('㌠', "サンチーム"), ('㌡', "シリング"), ('㌢', "センチ"), ('㌣', "セント"),
  ('㌤', "ダース"), ('㌥', "デシ"), ('㌦', "ドル"), ('㌧', "トン"), ('㌨', "ナノ"), ('㌩', "ノット"), ('㌪', "ハイツ"),
  ('㌫', "パーセント"), ('㌬', "パーツ"), ('㌭', "バーレル"), ('㌮', "ピアストル"), ('㌯', "ピクル"), ('㌰', "ピコ"),
  ('㌱', "ビル"), ('㌲', "ファラッド"), ('㌳', "フィート"), ('㌴', "ブッシェル"), ('㌵', "フラン"), ('㌶', "ヘクタール"),
  ('㌷', "ペソ"), ('㌸', "ペニヒ"), ('㌹', "ヘルツ"), ('㌺', "ペンス"), ('㌻', "ページ"), ('㌼', "ベータ"),
  ('㌽', "ポイント"), ('㌾', "ボルト"), ('㌿', "ホン"), ('㍀', "ポンド"), ('㍁', "ホール"), ('㍂', "ホーン"),
  ('㍃', "マイクロ"), ('㍄', "マイル"), ('㍅', "マッハ"), ('㍆', "マルク"), ('㍇', "マンション"), ('㍈', "ミクロン"),
  ('㍉', "ミリ"), ('㍊', "ミリバール"), ('㍋', "メガ"), ('㍌', "メガトン"), ('㍍', "メートル"), ('㍎', "ヤード"),
  ('㍏', "ヤール"), ('㍐', "ユアン"), ('㍑', "リットル"), ('㍒', "リラ"), ('㍓', "ルピー"), ('㍔', "ルーブル"),
  ('㍕', "レム"), ('㍖', "レントゲン"), ('㍗', "ワット"), ('㍘', "0点"), ('㍙', "1点"), ('㍚', "2点"), ('㍛', "3点"),
  ('㍜', "4点"), ('㍝', "5点"), ('㍞', "6点"), ('㍟', "7点"), ('㍠', "8点"), ('㍡', "9点"), ('㍢', "10点"),
  ('㍣', "11点"), ('㍤', "12点"), ('㍥', "13点"), ('㍦', "14点"), ('㍧', "15点"), ('㍨', "16点"),
  ('㍩', "17点"), ('㍪', "18点"), ('㍫', "19点"), ('㍬', "20点"), ('㍭', "21点"), ('㍮', "22点"),
  ('㍯', "23点"), ('㍰', "24点"), ('㍱', "hpa"), ('㍲', "da"), ('㍳', "au"), ('㍴', "bar"), ('㍵', "ov"),
  ('㍶', "pc"), ('㍷', "dm"), ('㍸', "dm2"), ('㍹', "dm3"), ('㍺', "iu"), ('㍻', "平成"), ('㍼', "昭和"),
  ('㍽', "大正"), ('㍾', "明治"), ('㍿', "株式会社"), ('㎀', "pa"), ('㎁', "na"), ('㎂', "μa"), ('㎃', "ma"),
  ('㎄', "ka"), ('㎅', "kb"), ('㎆', "mb"), ('㎇', "gb"), ('㎈', "cal"), ('㎉', "kcal"), ('㎊', "pf"),
  ('㎋', "nf"), ('㎌', "μf"), ('㎍', "μg"), ('㎎', "mg"), ('㎏', "kg"), ('㎐', "hz"), ('㎑', "khz"),
  ('㎒', "mhz"), ('㎓', "ghz"), ('㎔', "thz"), ('㎕', "μl"), ('㎖', "ml"), ('㎗', "dl"), ('㎘', "kl"),
  ('㎙', "fm"), ('㎚', "nm"), ('㎛', "μm"), ('㎜', "mm"), ('㎝', "cm"), ('㎞', "km"), ('㎟', "mm2"),
  ('㎠', "cm2"), ('㎡', "m2"), ('㎢', "km2"), ('㎣', "mm3"), ('㎤', "cm3"), ('㎥', "m3"), ('㎦', "km3"),
  ('㎧', "m∕s"), ('㎨', "m∕s2"), ('㎩', "pa"), ('㎪', "kpa"), ('㎫', "mpa"), ('㎬', "gpa"),
  ('㎭', "rad"), ('㎮', "rad∕s"), ('㎯', "rad∕s2"), ('㎰', "ps"), ('㎱', "ns"), ('㎲', "μs"),
  ('㎳', "ms"), ('㎴', "pv"), ('㎵', "nv"), ('㎶', "μv"), ('㎷', "mv"), ('㎸', "kv"), ('㎹', "mv"),
  ('㎺', "pw"), ('㎻', "nw"), ('㎼', "μw"), ('㎽', "mw"), ('㎾', "kw"), ('㎿', "mw"), ('㏀', "kω"),
  ('㏁', "mω"), ('㏂', "a.m."), ('㏃', "bq"), ('㏄', "cc"), ('㏅', "cd"), ('㏆', "c∕kg"), ('㏇', "co."),
  ('㏈', "db"), ('㏉', "gy"), ('㏊', "ha"), ('㏋', "hp"), ('㏌', "in"), ('㏍', "kk"), ('㏎', "km"),
  ('㏏', "kt"), ('㏐', "lm"), ('㏑', "ln"), ('㏒', "log"), ('㏓', "lx"), ('㏔', "mb"), ('㏕', "mil"),
  ('㏖', "mol"), ('㏗', "ph"), ('㏘', "p.m."), ('㏙', "ppm"), ('㏚', "pr"), ('㏛', "sr"), ('㏜', "sv"),
  ('㏝', "wb"), ('㏞', "v∕m"), ('㏟', "a∕m"), ('㏠', "1日"), ('㏡', "2日"), ('㏢', "3日"), ('㏣', "4日"),
  ('㏤', "5日"), ('㏥', "6日"), ('㏦', "7日"), ('㏧', "8日"), ('㏨', "9日"), ('㏩', "10日"), ('㏪', "11日"),
  ('㏫', "12日"), ('㏬', "13日"), ('㏭', "14日"), ('㏮', "15日"), ('㏯', "16日"), ('㏰', "17日"),
  ('㏱', "18日"), ('㏲', "19日"), ('㏳', "20日"), ('㏴', "21日"), ('㏵', "22日"), ('㏶', "23日"),
  ('㏷', "24日"), ('㏸', "25日"), ('㏹', "26日"), ('㏺', "27日"), ('㏻', "28日"), ('㏼', "29日"),
  ('㏽', "30日"), ('㏾', "31日"), ('㏿', "gal"), ('ﬀ', "ff"), ('ﬁ', "fi"), ('ﬂ', "fl"), ('ﬃ', "ffi"),
  ('ﬄ', "ffl"), ('ﬅ', "st"), ('ﬆ', "st"), ('ﬓ', "մն"), ('ﬔ', "մե"), ('ﬕ', "մի"), ('ﬖ', "վն"),
  ('ﬗ', "մխ"), ('יִ', "יִ"), ('ײַ', "ײַ"), ('שׁ', "שׁ"), ('שׂ', "שׂ"), ('שּׁ', "שּׁ"), ('שּׂ', "שּׂ"),
  ('אַ', "אַ"), ('אָ', "אָ"), ('אּ', "אּ"), ('בּ', "בּ"), ('גּ', "גּ"), ('דּ', "דּ"), ('הּ', "הּ"),
  ('וּ', "וּ"), ('זּ', "זּ"), ('טּ', "טּ"), ('יּ', "יּ"), ('ךּ', "ךּ"), ('כּ', "כּ"), ('לּ', "לּ"),
  ('מּ', "מּ"), ('נּ', "נּ"), ('סּ', "סּ"), ('ףּ', "ףּ"), ('פּ', "פּ"), ('צּ', "צּ"), ('קּ', "קּ"),
  ('רּ', "רּ"), ('שּ', "שּ"), ('תּ', "תּ"), ('וֹ', "וֹ"), ('בֿ', "בֿ"), ('כֿ', "כֿ"), ('פֿ', "פֿ"),
  ('ﭏ', "אל"), ('ﯝ', "ۇٴ"), ('ﯪ', "ئا"), ('ﯫ', "ئا"), ('ﯬ', "ئە"), ('ﯭ', "ئە"), ('ﯮ', "ئو"),
  ('ﯯ', "ئو"), ('ﯰ', "ئۇ"), ('ﯱ', "ئۇ"), ('ﯲ', "ئۆ"), ('ﯳ', "ئۆ"), ('ﯴ', "ئۈ"), ('ﯵ', "ئۈ"),
  ('ﯶ', "ئې"), ('ﯷ', "ئې"), ('ﯸ', "ئې"), ('ﯹ', "ئى"), ('ﯺ', "ئى"), ('ﯻ', "ئى"), ('ﰀ', "ئج"),
  ('ﰁ', "ئح"), ('ﰂ', "ئم"), ('ﰃ', "ئى"), ('ﰄ', "ئي"), ('ﰅ', "بج"), ('ﰆ', "بح"), ('ﰇ', "بخ"),
  ('ﰈ', "بم"), ('ﰉ', "بى"), ('ﰊ', "بي"), ('ﰋ', "تج"), ('ﰌ', "تح"), ('ﰍ', "تخ"), ('ﰎ', "تم"),
  ('ﰏ', "تى"), ('ﰐ', "تي"), ('ﰑ', "ثج"), ('ﰒ', "ثم"), ('ﰓ', "ثى"), ('ﰔ', "ثي"), ('ﰕ', "جح"),
  ('ﰖ', "جم"), ('ﰗ', "حج"), ('ﰘ', "حم"), ('ﰙ', "خج"), ('ﰚ', "خح"), ('ﰛ', "خم"), ('ﰜ', "سج"),
  ('ﰝ', "سح"), ('ﰞ', "سخ"), ('ﰟ', "سم"), ('ﰠ', "صح"), ('ﰡ', "صم"), ('ﰢ', "ضج"), ('ﰣ', "ضح"),
  ('ﰤ', "ضخ"), ('ﰥ', "ضم"), ('ﰦ', "طح"), ('ﰧ', "طم"), ('ﰨ', "ظم"), ('ﰩ', "عج"), ('ﰪ', "عم"),
  ('ﰫ', "غج"), ('ﰬ', "غم"), ('ﰭ', "فج"), ('ﰮ', "فح"), ('ﰯ', "فخ"), ('ﰰ', "فم"), ('ﰱ', "فى"),
  ('ﰲ', "في"), ('ﰳ', "قح"), ('ﰴ', "قم"), ('ﰵ', "قى"), ('ﰶ', "قي"), ('ﰷ', "كا"), ('ﰸ', "كج"),
  ('ﰹ', "كح"), ('ﰺ', "كخ"), ('ﰻ', "كل"), ('ﰼ', "كم"), ('ﰽ', "كى"), ('ﰾ', "كي"), ('ﰿ', "لج"),
  ('ﱀ', "لح"), ('ﱁ', "لخ"), ('ﱂ', "لم"), ('ﱃ', "لى"), ('ﱄ', "لي"), ('ﱅ', "مج"), ('ﱆ', "مح"),
  ('ﱇ', "مخ"), ('ﱈ', "مم"), ('ﱉ', "مى"), ('ﱊ', "مي"), ('ﱋ', "نج"), ('ﱌ', "نح"), ('ﱍ', "نخ"),
  ('ﱎ', "نم"), ('ﱏ', "نى"), ('ﱐ', "ني"), ('ﱑ', "هج"), ('ﱒ', "هم"), ('ﱓ', "هى"), ('ﱔ', "هي"),
  ('ﱕ', "يج"), ('ﱖ', "يح"), ('ﱗ', "يخ"), ('ﱘ', "يم"), ('ﱙ', "يى"), ('ﱚ', "يي"), ('ﱛ', "ذٰ"),
  ('ﱜ', "رٰ"), ('ﱝ', "ىٰ"), ('ﱞ', " ٌّ"), ('ﱟ', " ٍّ"), ('ﱠ', " َّ"), ('ﱡ', " ُّ"), ('ﱢ', " ِّ"),
  ('ﱣ', " ّٰ"), ('ﱤ', "ئر"), ('ﱥ', "ئز"), ('ﱦ', "ئم"), ('ﱧ', "ئن"), ('ﱨ', "ئى"), ('ﱩ', "ئي"),
  ('ﱪ', "بر"), ('ﱫ', "بز"), ('ﱬ', "بم"), ('ﱭ', "بن"), ('ﱮ', "بى"), ('ﱯ', "بي"), ('ﱰ', "تر"),
  ('ﱱ', "تز"), ('ﱲ', "تم"), ('ﱳ', "تن"), ('ﱴ', "تى"), ('ﱵ', "تي"), ('ﱶ', "ثر"), ('ﱷ', "ثز"),
  ('ﱸ', "ثم"), ('ﱹ', "ثن"), ('ﱺ', "ثى"), ('ﱻ', "ثي"), ('ﱼ', "فى"), ('ﱽ', "في"), ('ﱾ', "قى"),
  ('ﱿ', "قي"), ('ﲀ', "كا"), ('ﲁ', "كل"), ('ﲂ', "كم"), ('ﲃ', "كى"), ('ﲄ', "كي"), ('ﲅ', "لم"),
  ('ﲆ', "لى"), ('ﲇ', "لي"), ('ﲈ', "ما"), ('ﲉ', "مم"), ('ﲊ', "نر"), ('ﲋ', "نز"), ('ﲌ', "نم"),
  ('ﲍ', "نن"), ('ﲎ', "نى"), ('ﲏ', "ني"), ('ﲐ', "ىٰ"), ('ﲑ', "ير"), ('ﲒ', "يز"), ('ﲓ', "يم"),
  ('ﲔ', "ين"), ('ﲕ', "يى"), ('ﲖ', "يي"), ('ﲗ', "ئج"), ('ﲘ', "ئح"), ('ﲙ', "ئخ"), ('ﲚ', "ئم"),
  ('ﲛ', "ئه"), ('ﲜ', "بج"), ('ﲝ', "بح"), ('ﲞ', "بخ"), ('ﲟ', "بم"), ('ﲠ', "به"), ('ﲡ', "تج"),
  ('ﲢ', "تح"), ('ﲣ', "تخ"), ('ﲤ', "تم"), ('ﲥ', "ته"), ('ﲦ', "ثم"), ('ﲧ', "جح"), ('ﲨ', "جم"),
  ('ﲩ', "حج"), ('ﲪ', "حم"), ('ﲫ', "خج"), ('ﲬ', "خم"), ('ﲭ', "سج"), ('ﲮ', "سح"), ('ﲯ', "سخ"),
  ('ﲰ', "سم"), ('ﲱ', "صح"), ('ﲲ', "صخ"), ('ﲳ', "صم"), ('ﲴ', "ضج"), ('ﲵ', "ضح"), ('ﲶ', "ضخ"),
  ('ﲷ', "ضم"), ('ﲸ', "طح"), ('ﲹ', "ظم"), ('ﲺ', "عج"), ('ﲻ', "عم"), ('ﲼ', "غج"), ('ﲽ', "غم"),
  ('ﲾ', "فج"), ('ﲿ', "فح"), ('ﳀ', "فخ"), ('ﳁ', "فم"), ('ﳂ', "قح"), ('ﳃ', "قم"), ('ﳄ', "كج"),
  ('ﳅ', "كح"), ('ﳆ', "كخ"), ('ﳇ', "كل"), ('ﳈ', "كم"), ('ﳉ', "لج"), ('ﳊ', "لح"), ('ﳋ', "لخ"),
  ('ﳌ', "لم"), ('ﳍ', "له"), ('ﳎ', "مج"), ('ﳏ', "مح"), ('ﳐ', "مخ"), ('ﳑ', "مم"), ('ﳒ', "نج"),
  ('ﳓ', "نح"), ('ﳔ', "نخ"), ('ﳕ', "نم"), ('ﳖ', "نه"), ('ﳗ', "هج"), ('ﳘ', "هم"), ('ﳙ', "هٰ"),
  ('ﳚ', "يج"), ('ﳛ', "يح"), ('ﳜ', "يخ"), ('ﳝ', "يم"), ('ﳞ', "يه"), ('ﳟ', "ئم"), ('ﳠ', "ئه"),
  ('ﳡ', "بم"), ('ﳢ', "به"), ('ﳣ', "تم"), ('ﳤ', "ته"), ('ﳥ', "ثم"), ('ﳦ', "ثه"), ('ﳧ', "سم"),
  ('ﳨ', "سه"), ('ﳩ', "شم"), ('ﳪ', "شه"), ('ﳫ', "كل"), ('ﳬ', "كم"), ('ﳭ', "لم"), ('ﳮ', "نم"),
  ('ﳯ', "نه"), ('ﳰ', "يم"), ('ﳱ', "يه"), ('ﳲ', "ـَّ"), ('ﳳ', "ـُّ"), ('ﳴ', "ـِّ"), ('ﳵ', "طى"),
  ('ﳶ', "طي"), ('ﳷ', "عى"), ('ﳸ', "عي"), ('ﳹ', "غى"), ('ﳺ', "غي"), ('ﳻ', "سى"), ('ﳼ', "سي"),
  ('ﳽ', "شى"), ('ﳾ', "شي"), ('ﳿ', "حى"), ('ﴀ', "حي"), ('ﴁ', "جى"), ('ﴂ', "جي"), ('ﴃ', "خى"),
  ('ﴄ', "خي"), ('ﴅ', "صى"), ('ﴆ', "صي"), ('ﴇ', "ضى"), ('ﴈ', "ضي"), ('ﴉ', "شج"), ('ﴊ', "شح"),
  ('ﴋ', "شخ"), ('ﴌ', "شم"), ('ﴍ', "شر"), ('ﴎ', "سر"), ('ﴏ', "صر"), ('ﴐ', "ضر"), ('ﴑ', "طى"),
  ('ﴒ', "طي"), ('ﴓ', "عى"), ('ﴔ', "عي"), ('ﴕ', "غى"), ('ﴖ', "غي"), ('ﴗ', "سى"), ('ﴘ', "سي"),
  ('ﴙ', "شى"), ('ﴚ', "شي"), ('ﴛ', "حى"), ('ﴜ', "حي"), ('ﴝ', "جى"), ('ﴞ', "جي"), ('ﴟ', "خى"),
  ('ﴠ', "خي"), ('ﴡ', "صى"), ('ﴢ', "صي"), ('ﴣ', "ضى"), ('ﴤ', "ضي"), ('ﴥ', "شج"), ('ﴦ', "شح"),
  ('ﴧ', "شخ"), ('ﴨ', "شم"), ('ﴩ', "شر"), ('ﴪ', "سر"), ('ﴫ', "صر"), ('ﴬ', "ضر"), ('ﴭ', "شج"),
  ('ﴮ', "شح"), ('ﴯ', "شخ"), ('ﴰ', "شم"), ('ﴱ', "سه"), ('ﴲ', "شه"), ('ﴳ', "طم"), ('ﴴ', "سج"),
  ('ﴵ', "سح"), ('ﴶ', "سخ"), ('ﴷ', "شج"), ('ﴸ', "شح"), ('ﴹ', "شخ"), ('ﴺ', "طم"), ('ﴻ', "ظم"),
  ('ﴼ', "اً"), ('ﴽ', "اً"), ('ﵐ', "تجم"), ('ﵑ', "تحج"), ('ﵒ', "تحج"), ('ﵓ', "تحم"), ('ﵔ', "تخم"),
  ('ﵕ', "تمج"), ('ﵖ', "تمح"), ('ﵗ', "تمخ"), ('ﵘ', "جمح"), ('ﵙ', "جمح"), ('ﵚ', "حمي"),
  ('ﵛ', "حمى"), ('ﵜ', "سحج"), ('ﵝ', "سجح"), ('ﵞ', "سجى"), ('ﵟ', "سمح"), ('ﵠ', "سمح"),
  ('ﵡ', "سمج"), ('ﵢ', "سمم"), ('ﵣ', "سمم"), ('ﵤ', "صحح"), ('ﵥ', "صحح"), ('ﵦ', "صمم"),
  ('ﵧ', "شحم"), ('ﵨ', "شحم"), ('ﵩ', "شجي"), ('ﵪ', "شمخ"), ('ﵫ', "شمخ"), ('ﵬ', "شمم"),
  ('ﵭ', "شمم"), ('ﵮ', "ضحى"), ('ﵯ', "ضخم"), ('ﵰ', "ضخم"), ('ﵱ', "طمح"), ('ﵲ', "طمح"),
  ('ﵳ', "طمم"), ('ﵴ', "طمي"), ('ﵵ', "عجم"), ('ﵶ', "عمم"), ('ﵷ', "عمم"), ('ﵸ', "عمى"),
  ('ﵹ', "غمم"), ('ﵺ', "غمي"), ('ﵻ', "غمى"), ('ﵼ', "فخم"), ('ﵽ', "فخم"), ('ﵾ', "قمح"),
  ('ﵿ', "قمم"), ('ﶀ', "لحم"), ('ﶁ', "لحي"), ('ﶂ', "لحى"), ('ﶃ', "لجج"), ('ﶄ', "لجج"),
  ('ﶅ', "لخم"), ('ﶆ', "لخم"), ('ﶇ', "لمح"), ('ﶈ', "لمح"), ('ﶉ', "محج"), ('ﶊ', "محم"),
  ('ﶋ', "محي"), ('ﶌ', "مجح"), ('ﶍ', "مجم"), ('ﶎ', "مخج"), ('ﶏ', "مخم"), ('ﶒ', "مجخ"),
  ('ﶓ', "همج"), ('ﶔ', "همم"), ('ﶕ', "نحم"), ('ﶖ', "نحى"), ('ﶗ', "نجم"), ('ﶘ', "نجم"),
  ('ﶙ', "نجى"), ('ﶚ', "نمي"), ('ﶛ', "نمى"), ('ﶜ', "يمم"), ('ﶝ', "يمم"), ('ﶞ', "بخي"),
  ('ﶟ', "تجي"), ('ﶠ', "تجى"), ('ﶡ', "تخي"), ('ﶢ', "تخى"), ('ﶣ', "تمي"), ('ﶤ', "تمى"),
  ('ﶥ', "جمي"), ('ﶦ', "جحى"), ('ﶧ', "جمى"), ('ﶨ', "سخى"), ('ﶩ', "صحي"), ('ﶪ', "شحي"),
  ('ﶫ', "ضحي"), ('ﶬ', "لجي"), ('ﶭ', "لمي"), ('ﶮ', "يحي"), ('ﶯ', "يجي"), ('ﶰ', "يمي"),
  ('ﶱ', "ممي"), ('ﶲ', "قمي"), ('ﶳ', "نحي"), ('ﶴ', "قمح"), ('ﶵ', "لحم"), ('ﶶ', "عمي"),
  ('ﶷ', "كمي"), ('ﶸ', "نجح"), ('ﶹ', "مخي"), ('ﶺ', "لجم"), ('ﶻ', "كمم"), ('ﶼ', "لجم"),
  ('ﶽ', "نجح"), ('ﶾ', "جحي"), ('ﶿ', "حجي"), ('ﷀ', "مجي"), ('ﷁ', "فمي"), ('ﷂ', "بحي"),
  ('ﷃ', "كمم"), ('ﷄ', "عجم"), ('ﷅ', "صمم"), ('ﷆ', "سخي"), ('ﷇ', "نجي"), ('ﷰ', "صلے"),
  ('ﷱ', "قلے"), ('ﷲ', "الله"), ('ﷳ', "اكبر"), ('ﷴ', "محمد"), ('ﷵ', "صلعم"), ('ﷶ', "رسول"),
  ('ﷷ', "عليه"), ('ﷸ', "وسلم"), ('ﷹ', "صلى"), ('ﷺ', "صلى الله عليه وسلم"), ('ﷻ', "جل جلاله"),
  ('﷼', "ریال"), ('︙', "..."), ('︰', ".."), ('﹉', " ̅"), ('﹊', " ̅"), ('﹋', " ̅"), ('﹌', " ̅"),
  ('ﹰ', " ً"), ('ﹱ', "ـً"), ('ﹲ', " ٌ"), ('ﹴ', " ٍ"), ('ﹶ', " َ"), ('ﹷ', "ـَ"), ('ﹸ', " ُ"),
  ('ﹹ', "ـُ"), ('ﹺ', " ِ"), ('ﹻ', "ـِ"), ('ﹼ', " ّ"), ('ﹽ', "ـّ"), ('ﹾ', " ْ"), ('ﹿ', "ـْ"),
  ('ﻵ', "لآ"), ('ﻶ', "لآ"), ('ﻷ', "لأ"), ('ﻸ', "لأ"), ('ﻹ', "لإ"), ('ﻺ', "لإ"), ('ﻻ', "لا"),
  ('ﻼ', "لا"), ('￣', " ̄"), ('𝅗𝅥', "𝅗𝅥"), ('𝅘𝅥', "𝅘𝅥"), ('𝅘𝅥𝅮', "𝅘𝅥𝅮"), ('𝅘𝅥𝅯', "𝅘𝅥𝅯"), ('𝅘𝅥𝅰', "𝅘𝅥𝅰"),
  ('𝅘𝅥𝅱', "𝅘𝅥𝅱"), ('𝅘𝅥𝅲', "𝅘𝅥𝅲"), ('𝆹𝅥', "𝆹𝅥"), ('𝆺𝅥', "𝆺𝅥"), ('𝆹𝅥𝅮', "𝆹𝅥𝅮"), ('𝆺𝅥𝅮', "𝆺𝅥𝅮"), ('𝆹𝅥𝅯', "𝆹𝅥𝅯"),
  ('𝆺𝅥𝅯', "𝆺𝅥𝅯"), ('🄀', "0."), ('🄁', "0,"), ('🄂', "1,"), ('🄃', "2,"), ('🄄', "3,"), ('🄅', "4,"),
  ('🄆', "5,"), ('🄇', "6,"), ('🄈', "7,"), ('🄉', "8,"), ('🄊', "9,"), ('🄐', "(a)"), ('🄑', "(b)"),
  ('🄒', "(c)"), ('🄓', "(d)"), ('🄔', "(e)"), ('🄕', "(f)"), ('🄖', "(g)"), ('🄗', "(h)"),
  ('🄘', "(i)"), ('🄙', "(j)"), ('🄚', "(k)"), ('🄛', "(l)"), ('🄜', "(m)"), ('🄝', "(n)"),
  ('🄞', "(o)"), ('🄟', "(p)"), ('🄠', "(q)"), ('🄡', "(r)"), ('🄢', "(s)"), ('🄣', "(t)"),
  ('🄤', "(u)"), ('🄥', "(v)"), ('🄦', "(w)"), ('🄧', "(x)"), ('🄨', "(y)"), ('🄩', "(z)"),
  ('🄪', "〔s〕"), ('🄭', "cd"), ('🄮', "wz"), ('🅊', "hv"), ('🅋', "mv"), ('🅌', "sd"), ('🅍', "ss"),
  ('🅎', "ppv"), ('🅏', "wc"), ('🅪', "mc"), ('🅫', "md"), ('🅬', "mr"), ('🆐', "dj"), ('🈀', "ほか"),
  ('🈁', "ココ"), ('🉀', "〔本〕"), ('🉁', "〔三〕"), ('🉂', "〔二〕"), ('🉃', "〔安〕"), ('🉄', "〔点〕"),
  ('🉅', "〔打〕"), ('🉆', "〔盗〕"), ('🉇', "〔勝〕"), ('🉈', "〔敗〕")]

/-- First and last code points of the runs that are dropped. -/
def droppedRuns : List (Nat × Nat) := [
  (0xAD, 0xAD), (0x34F, 0x34F), (0x180B, 0x180D), (0x180F, 0x180F),
  (0x200B, 0x200B), (0x2060, 0x2060), (0x2064, 0x2064), (0xFE00, 0xFE0F), (0xFEFF, 0xFEFF),
  (0x1BCA0, 0x1BCA3), (0xE0100, 0xE01EF)]

/-- The second of the pair that starts with `c`, in characters that make up pairs. -/
def partner? (c : Char) : List Char → Option Char
  | a :: b :: rest => if a = c then some b else partner? c rest
  | _ => none

/-- What a character stands for. -/
def foldChar (c : Char) : List Char :=
  if c.toNat < 128 then [c.toLower]
  else if droppedRuns.any fun r => r.1 ≤ c.toNat && c.toNat ≤ r.2 then []
  else
    match foldedPairs.findSome? fun line => partner? c line.toList with
    | some d => [d]
    | none =>
      match foldedSequences.find? (·.1 = c) with
      | some (_, s) => s.toList
      | none => [c]

/-- What the characters of a text stand for. -/
def fold (cs : List Char) : List Char := cs.flatMap foldChar

end ConditionalGet.Text
