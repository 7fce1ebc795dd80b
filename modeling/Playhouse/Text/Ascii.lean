/-!
The ASCII characters that a character decomposes into, where its full compatibility decomposition holds any.
-/
namespace Playhouse.Text

/-- Runs of characters that decompose into ASCII characters in their order: the first code point, how many there
are, and the character for the first one. -/
def asciiRuns : List (Nat × Nat × Char) := [
  (7475,8,'G'),(8308,6,'4'),(8320,10,'0'),(9312,9,'1'),(9398,26,'A'),(9424,26,'a'),(12992,9,'1'),(13144,10,'0'),
  (13280,9,'1'),(65281,94,'!'),(119808,26,'A'),(119834,26,'a'),(119860,26,'A'),(119886,7,'a'),(119894,18,'i'),
  (119912,26,'A'),(119938,26,'a'),(119982,8,'S'),(119997,7,'h'),(120005,11,'p'),(120016,26,'A'),(120042,26,'a'),
  (120077,8,'J'),(120086,7,'S'),(120094,26,'a'),(120128,5,'I'),(120138,7,'S'),(120146,26,'a'),(120172,26,'A'),
  (120198,26,'a'),(120224,26,'A'),(120250,26,'a'),(120276,26,'A'),(120302,26,'a'),(120328,26,'A'),(120354,26,'a'),
  (120380,26,'A'),(120406,26,'a'),(120432,26,'A'),(120458,26,'a'),(120782,10,'0'),(120792,10,'0'),(120802,10,'0'),
  (120812,10,'0'),(120822,10,'0'),(127280,26,'A'),(130032,10,'0')]

/-- The other characters. Each one decomposes into the ASCII text nearest before it. -/
def asciiTexts : List String := [
  " \u00a0\u00a8\u00af\u00b4\u00b8\u02d8\u02d9\u02da\u02db\u02dc\u02dd\u037a\u0384\u0385\u1fbd\u1fbf\u1fc0\u1fc1",
  " \u1fcd\u1fce\u1fcf\u1fdd\u1fde\u1fdf\u1fed\u1fee\u1ffd\u1ffe\u2000\u2001\u2002\u2003\u2004\u2005\u2006\u2007",
  " \u2008\u2009\u200a\u2017\u202f\u203e\u205f\u3000\u309b\u309c\ufc5e\ufc5f\ufc60\ufc61\ufc62\ufc63\ufdfb\ufe49",
  " \ufe4a\ufe4b\ufe4c\ufe70\ufe72\ufe74\ufe76\ufe78\ufe7a\ufe7c\ufe7e\uffe3!︕﹗#﹟$﹩%﹪&﹠(⁽₍︵﹙)⁾₎︶﹚*﹡+⁺₊﬩﹢,︐﹐-﹣.․﹒0⁰⓪",
  "1¹⅟2²3³:︓﹕;\u037e︔﹔<≮﹤=⁼₌≠﹦>≯﹥?︖﹖@﹫AÀÁÂÃÄÅĀĂĄǍǞǠǺȀȂȦᴬḀẠẢẤẦẨẪẬẮẰẲẴẶ\u212b㎂𝒜𝔄𝔸BᴮḂḄḆℬ𝔅𝔹CÇĆĈĊČḈℂ℃ℭⅭꟲ𝒞🄫DĎᴰḊḌḎḐḒⅅⅮ𝒟𝔇𝔻",
  "EÈÉÊËĒĔĖĘĚȄȆȨᴱḔḖḘḚḜẸẺẼẾỀỂỄỆℰ𝔈𝔼FḞ℉ℱ㎌ꟳ𝔉𝔽GĜĞĠĢǦǴḠ𝒢𝔊𝔾HĤȞḢḤḦḨḪℋℌℍIÌÍÎÏĨĪĬĮİǏȈȊḬḮỈỊℐℑⅠJĴ𝒥KĶǨḰḲḴ\u212a𝒦LĹĻĽĿḶḸḺḼℒⅬMḾṀṂℳⅯ㏁",
  "NÑŃŅŇǸṄṆṈṊℕ𝒩OÒÓÔÕÖŌŎŐƠǑǪǬȌȎȪȬȮȰᴼṌṎṐṒỌỎỐỒỔỖỘỚỜỞỠỢ𝒪𝕆PᴾṔṖℙ𝒫Qℚꟴ𝒬RŔŖŘȐȒᴿṘṚṜṞℛℜℝ🄬SŚŜŞŠȘṠṢṤṦṨ🄪TŢŤȚᵀṪṬṮṰ",
  "UÙÚÛÜŨŪŬŮŰŲƯǓǕǗǙǛȔȖᵁṲṴṶṸṺỤỦỨỪỬỮỰVṼṾⅤⱽ㎶WŴᵂẀẂẄẆẈ㎼XẊẌⅩYÝŶŸȲẎỲỴỶỸZŹŻŽẐẒẔℤℨ[﹇\\﹨]﹈_︳︴﹍﹎﹏`\u1fef",
  "aªàáâãäåāăąǎǟǡǻȁȃȧᵃḁẚạảấầẩẫậắằẳẵặₐ𝒶bᵇḃḅḇ𝒷cçćĉċčᶜḉⅽ𝒸dďᵈḋḍḏḑḓⅆⅾ𝒹eèéêëēĕėęěȅȇȩᵉḕḗḙḛḝẹẻẽếềểễệₑℯⅇfᶠḟ𝒻gĝğġģǧǵᵍḡℊ㎍",
  "hĥȟʰḣḥḧḩḫẖₕℎiìíîïĩīĭįǐȉȋᵢḭḯỉịⁱℹⅈⅰjĵǰʲⅉⱼkķǩᵏḱḳḵₖ㏀lĺļľŀˡḷḹḻḽₗℓⅼ㎕mᵐḿṁṃₘⅿ㎛nñńņňŉǹṅṇṉṋⁿₙ",
  "oºòóôõöōŏőơǒǫǭȍȏȫȭȯȱᵒṍṏṑṓọỏốồổỗộớờởỡợₒℴpᵖṕṗₚq𐞥rŕŗřȑȓʳᵣṙṛṝṟsśŝşšſșˢṡṣṥṧṩẛₛ㎲tţťțᵗṫṭṯṱẗₜ",
  "uùúûüũūŭůűųưǔǖǘǚǜȕȗᵘᵤṳṵṷṹṻụủứừửữựvᵛᵥṽṿⅴwŵʷẁẃẅẇẉẘxˣẋẍₓⅹyýÿŷȳʸẏẙỳỵỷỹzźżžᶻẑẓẕ\x7b︷﹛\x7d︸﹜!!‼!?⁉",
  "()㈀㈁㈂㈃㈄㈅㈆㈇㈈㈉㈊㈋㈌㈍㈎㈏㈐㈑㈒㈓㈔㈕㈖㈗㈘㈙㈚㈛㈜㈝㈞㈠㈡㈢㈣㈤㈥㈦㈧㈨㈩㈪㈫㈬㈭㈮㈯㈰㈱㈲㈳㈴㈵㈶㈷㈸㈹㈺㈻㈼㈽㈾㈿㉀㉁㉂㉃..‥︰0,🄁0.🄀03↉1,🄂1.⒈10⑩㋉㍢㏩11⑪㋊㍣㏪12½⑫㋋㍤㏫13⅓⑬㍥㏬",
  "14¼⑭㍦㏭15⅕⑮㍧㏮16⅙⑯㍨㏯17⅐⑰㍩㏰18⅛⑱㍪㏱19⅑⑲㍫㏲2,🄃2.⒉20⑳㍬㏳21㉑㍭㏴22㉒㍮㏵23⅔㉓㍯㏶24㉔㍰㏷25⅖㉕㏸26㉖㏹27㉗㏺28㉘㏻29㉙㏼3,🄄3.⒊30㉚㏽31㉛㏾32㉜33㉝34¾㉞",
  "35⅗㉟36㊱37㊲38⅜㊳39㊴4,🄅4.⒋40㊵41㊶42㊷43㊸44㊹45⅘㊺46㊻47㊼48㊽49㊾5,🄆5.⒌50㊿56⅚58⅝6,🄇6.⒍7,🄈7.⒎78⅞8,🄉8.⒏9,🄊9.⒐==⩵?!⁈??⁇AU㍳Am㏟Bq㏃",
  "CD🄭DJ🆐DZǄǱDzǅǲGB㎇Gy㏉HP㏋HV🅊Hg㋌Hz㎐IIⅡIJĲIU㍺IVⅣIXⅨKB㎅KK㏍KM㏎LJǇLjǈMB㎆MC🅪MD🅫MR🅬MV㎹🅋MW㎿NJǊNjǋNo№PH㏗PR㏚Pa㎩Rs₨SD🅌SM℠SS🅍Sv㏜",
  "TM™VIⅥVm㏞WC🅏WZ🄮Wb㏝XIⅪcc㏄cd㏅cm㎝dB㏈da㍲dl㎗dm㍷dzǆǳeV㋎ffﬀfiﬁflﬂfm㎙ha㏊iiⅱijĳin㏌ivⅳixⅸkA㎄kV㎸kW㎾kg㎏kl㎘km㎞kt㏏ljǉlm㏐ln㏑lx㏓",
  "m2㎡m3㎥mA㎃mV㎷mW㎽mb㏔mg㎎ml㎖mm㎜ms㎧㎳nA㎁nF㎋nV㎵nW㎻njǌnm㎚ns㎱oV㍵pA㎀pF㎊pV㎴pW㎺pc㍶ps㎰sr㏛stﬅﬆviⅵxiⅺ   \ufdfa(1)⑴(2)⑵(3)⑶(4)⑷",
  "(5)⑸(6)⑹(7)⑺(8)⑻(9)⑼(A)🄐(B)🄑(C)🄒(D)🄓(E)🄔(F)🄕(G)🄖(H)🄗(I)🄘(J)🄙(K)🄚(L)🄛(M)🄜(N)🄝(O)🄞(P)🄟(Q)🄠(R)🄡(S)🄢(T)🄣(U)🄤(V)🄥(W)🄦",
  "(X)🄧(Y)🄨(Z)🄩(a)⒜(b)⒝(c)⒞(d)⒟(e)⒠(f)⒡(g)⒢(h)⒣(i)⒤(j)⒥(k)⒦(l)⒧(m)⒨(n)⒩(o)⒪(p)⒫(q)⒬(r)⒭(s)⒮(t)⒯(u)⒰(v)⒱(w)⒲(x)⒳(y)⒴",
  "(z)⒵...…︙10.⒑11.⒒110⅒12.⒓13.⒔14.⒕15.⒖16.⒗17.⒘18.⒙19.⒚20.⒛::=⩴===⩶Ckg㏆Co.㏇FAX℻GHz㎓GPa㎬IIIⅢLTD㋏MHz㎒MPa㎫PPM㏙PPV🅎PTE㉐",
  "TEL℡THz㎔VIIⅦXIIⅫa/c℀a/s℁bar㍴c/o℅c/u℆cal㎈cm2㎠cm3㎤dm2㍸dm3㍹erg㋍ffiﬃfflﬄgal㏿hPa㍱iiiⅲkHz㎑kPa㎪km2㎢km3㎦log㏒mil㏕mm2㎟mm3㎣",
  "mol㏖ms2㎨rad㎭viiⅶxiiⅻ(10)⑽(11)⑾(12)⑿(13)⒀(14)⒁(15)⒂(16)⒃(17)⒄(18)⒅(19)⒆(20)⒇VIIIⅧa.m.㏂kcal㎉p.m.㏘rads㎮viiiⅷrads2㎯"]

/-- What is left of a character when only ASCII is kept of its decomposition. -/
def asciiPart (c : Char) : List Char :=
  if c.toNat < 128 then [c]
  else match asciiRuns.find? fun (first, count, _) => first ≤ c.toNat && c.toNat < first + count with
    | some (first, _, d) => [Char.ofNat (d.toNat + (c.toNat - first))]
    | none => match asciiTexts.find? (·.toList.contains c) with
      | some texts =>
        let before := (texts.toList.takeWhile (· != c)).reverse.dropWhile (128 ≤ ·.toNat)
        (before.takeWhile (·.toNat < 128)).reverse
      | none => []

def toAscii (text : List Char) : List Char := text.flatMap asciiPart

end Playhouse.Text
