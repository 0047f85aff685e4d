/-
**Scripts.**

Every code point belongs to one script, with a name of four letters. Some are used in other scripts
as well: `extensions` names all of these. The data is that of Unicode 16.0.
-/

import MetricRelay.Text.Blank
import MetricRelay.Unicode.Runs

namespace MetricRelay.Unicode

namespace Script

/-- The scripts of all code points. -/
def text : String :=
  String.join [
    "Zyyy65Latn26Zyyy6Latn26Zyyy47Latn1Zyyy15Latn1Zyyy5Latn23Zyyy1Latn31Zyyy1Latn449Zyyy39Latn5",
    "Zyyy5Bopo2Zyyy20Zinh112Grek4Zyyy1Grek3Zzzz2Grek4Zyyy1Grek1Zzzz4Grek1Zyyy1Grek1Zyyy1Grek3Zzzz1",
    "Grek1Zzzz1Grek20Zzzz1Grek63Copt14Grek16Cyrl133Zinh2Cyrl169Zzzz1Armn38Zzzz2Armn50Zzzz2Armn3",
    "Zzzz1Hebr55Zzzz8Hebr27Zzzz4Hebr6Zzzz11Arab5Zyyy1Arab6Zyyy1Arab14Zyyy1Arab3Zyyy1Arab32Zyyy1",
    "Arab10Zinh11Arab26Zinh1Arab108Zyyy1Arab34Syrc14Zzzz1Syrc60Zzzz2Syrc3Arab48Thaa50Zzzz14Nkoo59",
    "Zzzz2Nkoo3Samr46Zzzz2Samr15Zzzz1Mand28Zzzz2Mand1Zzzz1Syrc11Zzzz5Arab31Zzzz1Arab2Zzzz5Arab75",
    "Zyyy1Arab29Deva81Zinh4Deva15Zyyy2Deva26Beng4Zzzz1Beng8Zzzz2Beng2Zzzz2Beng22Zzzz1Beng7Zzzz1",
    "Beng1Zzzz3Beng4Zzzz2Beng9Zzzz2Beng2Zzzz2Beng4Zzzz8Beng1Zzzz4Beng2Zzzz1Beng5Zzzz2Beng25Zzzz2",
    "Guru3Zzzz1Guru6Zzzz4Guru2Zzzz2Guru22Zzzz1Guru7Zzzz1Guru2Zzzz1Guru2Zzzz1Guru2Zzzz2Guru1Zzzz1",
    "Guru5Zzzz4Guru2Zzzz2Guru3Zzzz3Guru1Zzzz7Guru4Zzzz1Guru1Zzzz7Guru17Zzzz10Gujr3Zzzz1Gujr9Zzzz1",
    "Gujr3Zzzz1Gujr22Zzzz1Gujr7Zzzz1Gujr2Zzzz1Gujr5Zzzz2Gujr10Zzzz1Gujr3Zzzz1Gujr3Zzzz2Gujr1Zzzz15",
    "Gujr4Zzzz2Gujr12Zzzz7Gujr7Zzzz1Orya3Zzzz1Orya8Zzzz2Orya2Zzzz2Orya22Zzzz1Orya7Zzzz1Orya2Zzzz1",
    "Orya5Zzzz2Orya9Zzzz2Orya2Zzzz2Orya3Zzzz7Orya3Zzzz4Orya2Zzzz1Orya5Zzzz2Orya18Zzzz10Taml2Zzzz1",
    "Taml6Zzzz3Taml3Zzzz1Taml4Zzzz3Taml2Zzzz1Taml1Zzzz1Taml2Zzzz3Taml2Zzzz3Taml3Zzzz3Taml12Zzzz4",
    "Taml5Zzzz3Taml3Zzzz1Taml4Zzzz2Taml1Zzzz6Taml1Zzzz14Taml21Zzzz5Telu13Zzzz1Telu3Zzzz1Telu23",
    "Zzzz1Telu16Zzzz2Telu9Zzzz1Telu3Zzzz1Telu4Zzzz7Telu2Zzzz1Telu3Zzzz2Telu1Zzzz2Telu4Zzzz2Telu10",
    "Zzzz7Telu9Knda13Zzzz1Knda3Zzzz1Knda23Zzzz1Knda10Zzzz1Knda5Zzzz2Knda9Zzzz1Knda3Zzzz1Knda4Zzzz7",
    "Knda2Zzzz6Knda2Zzzz1Knda4Zzzz2Knda10Zzzz1Knda3Zzzz12Mlym13Zzzz1Mlym3Zzzz1Mlym51Zzzz1Mlym3",
    "Zzzz1Mlym6Zzzz4Mlym16Zzzz2Mlym26Zzzz1Sinh3Zzzz1Sinh18Zzzz3Sinh24Zzzz1Sinh9Zzzz1Sinh1Zzzz2",
    "Sinh7Zzzz3Sinh1Zzzz4Sinh6Zzzz1Sinh1Zzzz1Sinh8Zzzz6Sinh10Zzzz2Sinh3Zzzz12Thai58Zzzz4Zyyy1",
    "Thai28Zzzz37Laoo2Zzzz1Laoo1Zzzz1Laoo5Zzzz1Laoo24Zzzz1Laoo1Zzzz1Laoo23Zzzz2Laoo5Zzzz1Laoo1",
    "Zzzz1Laoo7Zzzz1Laoo10Zzzz2Laoo4Zzzz32Tibt72Zzzz1Tibt36Zzzz4Tibt39Zzzz1Tibt36Zzzz1Tibt15Zzzz1",
    "Tibt7Zyyy4Tibt2Zzzz37Mymr160Geor38Zzzz1Geor1Zzzz5Geor1Zzzz2Geor43Zyyy1Geor4Hang256Ethi73Zzzz1",
    "Ethi4Zzzz2Ethi7Zzzz1Ethi1Zzzz1Ethi4Zzzz2Ethi41Zzzz1Ethi4Zzzz2Ethi33Zzzz1Ethi4Zzzz2Ethi7Zzzz1",
    "Ethi1Zzzz1Ethi4Zzzz2Ethi15Zzzz1Ethi57Zzzz1Ethi4Zzzz2Ethi67Zzzz2Ethi32Zzzz3Ethi26Zzzz6Cher86",
    "Zzzz2Cher6Zzzz2Cans640Ogam29Zzzz3Runr75Zyyy3Runr11Zzzz7Tglg22Zzzz9Tglg1Hano21Zyyy2Zzzz9Buhd20",
    "Zzzz12Tagb13Zzzz1Tagb3Zzzz1Tagb2Zzzz12Khmr94Zzzz2Khmr10Zzzz6Khmr10Zzzz6Mong2Zyyy2Mong1Zyyy1",
    "Mong20Zzzz6Mong89Zzzz7Mong43Zzzz5Cans70Zzzz10Limb31Zzzz1Limb12Zzzz4Limb12Zzzz4Limb1Zzzz3",
    "Limb12Tale30Zzzz2Tale5Zzzz11Talu44Zzzz4Talu26Zzzz6Talu11Zzzz3Talu2Khmr32Bugi28Zzzz2Bugi2",
    "Lana63Zzzz1Lana29Zzzz2Lana11Zzzz6Lana10Zzzz6Lana14Zzzz2Zinh31Zzzz49Bali77Zzzz1Bali50Sund64",
    "Batk52Zzzz8Batk4Lepc56Zzzz3Lepc15Zzzz3Lepc3Olck48Cyrl11Zzzz5Geor43Zzzz2Geor3Sund8Zzzz8Zinh3",
    "Zyyy1Zinh13Zyyy1Zinh7Zyyy4Zinh1Zyyy6Zinh1Zyyy3Zinh2Zyyy1Zzzz5Latn38Grek5Cyrl1Latn49Grek5Latn4",
    "Grek5Latn13Cyrl1Latn70Grek1Zinh64Latn256Grek22Zzzz2Grek6Zzzz2Grek38Zzzz2Grek6Zzzz2Grek8Zzzz1",
    "Grek1Zzzz1Grek1Zzzz1Grek1Zzzz1Grek31Zzzz2Grek53Zzzz1Grek15Zzzz1Grek14Zzzz2Grek6Zzzz1Grek19",
    "Zzzz2Grek3Zzzz1Grek9Zzzz1Zyyy12Zinh2Zyyy87Zzzz1Zyyy11Latn1Zzzz2Zyyy11Latn1Zyyy15Zzzz1Latn13",
    "Zzzz3Zyyy33Zzzz15Zinh33Zzzz15Zyyy38Grek1Zyyy3Latn2Zyyy6Latn1Zyyy27Latn1Zyyy17Latn41Zyyy3Zzzz4",
    "Zyyy666Zzzz22Zyyy11Zzzz21Zyyy928Brai256Zyyy628Zzzz2Zyyy32Zzzz1Zyyy105Glag96Latn32Copt116Zzzz5",
    "Copt7Geor38Zzzz1Geor1Zzzz5Geor1Zzzz2Tfng56Zzzz7Tfng2Zzzz14Tfng1Ethi23Zzzz9Ethi7Zzzz1Ethi7",
    "Zzzz1Ethi7Zzzz1Ethi7Zzzz1Ethi7Zzzz1Ethi7Zzzz1Ethi7Zzzz1Ethi7Zzzz1Cyrl32Zyyy94Zzzz34Hani26",
    "Zzzz1Hani89Zzzz12Hani214Zzzz26Zyyy21Hani1Zyyy1Hani1Zyyy25Hani9Zinh4Hang2Zyyy8Hani4Zyyy4Zzzz1",
    "Hira86Zzzz2Zinh2Zyyy2Hira3Zyyy1Kana90Zyyy2Kana3Zzzz5Bopo43Zzzz1Hang94Zzzz1Zyyy16Bopo32Zyyy38",
    "Zzzz9Zyyy1Kana16Hang31Zzzz1Zyyy64Hang31Zyyy81Kana47Zyyy1Kana88Zyyy168Hani6592Zyyy64Hani20992",
    "Yiii1165Zzzz3Yiii55Zzzz9Lisu48Vaii300Zzzz20Cyrl96Bamu88Zzzz8Zyyy34Latn102Zyyy3Latn67Zzzz2",
    "Latn2Zzzz1Latn1Zzzz1Latn8Zzzz21Latn14Sylo45Zzzz3Zyyy10Zzzz6Phag56Zzzz8Saur70Zzzz8Saur12Zzzz6",
    "Deva32Kali46Zyyy1Kali1Rjng36Zzzz11Rjng1Hang29Zzzz3Java78Zzzz1Zyyy1Java10Zzzz4Java2Mymr31Zzzz1",
    "Cham55Zzzz9Cham14Zzzz2Cham10Zzzz2Cham4Mymr32Tavt67Zzzz24Tavt5Mtei23Zzzz10Ethi6Zzzz2Ethi6Zzzz2",
    "Ethi6Zzzz9Ethi7Zzzz1Ethi7Zzzz1Latn43Zyyy1Latn9Grek1Latn4Zyyy2Zzzz4Cher80Mtei46Zzzz2Mtei10",
    "Zzzz6Hang11172Zzzz12Hang23Zzzz4Hang49Zzzz8452Hani366Zzzz2Hani106Zzzz38Latn7Zzzz12Armn5Zzzz5",
    "Hebr26Zzzz1Hebr5Zzzz1Hebr1Zzzz1Hebr2Zzzz1Hebr2Zzzz1Hebr10Arab115Zzzz16Arab363Zyyy2Arab80Zzzz2",
    "Arab54Zzzz7Arab1Zzzz32Arab16Zinh16Zyyy10Zzzz6Zinh14Cyrl2Zyyy35Zzzz1Zyyy19Zzzz1Zyyy4Zzzz4Arab5",
    "Zzzz1Arab135Zzzz2Zyyy1Zzzz1Zyyy32Latn26Zyyy6Latn26Zyyy11Kana10Zyyy1Kana45Zyyy2Hang31Zzzz3",
    "Hang6Zzzz2Hang6Zzzz2Hang6Zzzz2Hang3Zzzz3Zyyy7Zzzz1Zyyy7Zzzz10Zyyy5Zzzz2Linb12Zzzz1Linb26Zzzz1",
    "Linb19Zzzz1Linb2Zzzz1Linb15Zzzz2Linb14Zzzz34Linb123Zzzz5Zyyy3Zzzz4Zyyy45Zzzz3Zyyy9Grek79Zzzz1",
    "Zyyy13Zzzz3Grek1Zzzz47Zyyy45Zinh1Zzzz130Lyci29Zzzz3Cari49Zzzz15Zinh1Zyyy27Zzzz4Ital36Zzzz9",
    "Ital3Goth27Zzzz5Perm43Zzzz5Ugar30Zzzz1Ugar1Xpeo36Zzzz4Xpeo14Zzzz42Dsrt80Shaw48Osma30Zzzz2",
    "Osma10Zzzz6Osge36Zzzz4Osge36Zzzz4Elba40Zzzz8Aghb52Zzzz11Aghb1Vith11Zzzz1Vith15Zzzz1Vith7Zzzz1",
    "Vith2Zzzz1Vith11Zzzz1Vith15Zzzz1Vith7Zzzz1Vith2Zzzz3Todr52Zzzz12Lina311Zzzz9Lina22Zzzz10Lina8",
    "Zzzz24Latn6Zzzz1Latn42Zzzz1Latn9Zzzz69Cprt6Zzzz2Cprt1Zzzz1Cprt44Zzzz1Cprt2Zzzz3Cprt1Zzzz2",
    "Cprt1Armi22Zzzz1Armi9Palm32Nbat31Zzzz8Nbat9Zzzz48Hatr19Zzzz1Hatr2Zzzz5Hatr5Phnx28Zzzz3Phnx1",
    "Lydi26Zzzz5Lydi1Zzzz64Mero32Merc24Zzzz4Merc20Zzzz2Merc46Khar4Zzzz1Khar2Zzzz5Khar8Zzzz1Khar3",
    "Zzzz1Khar29Zzzz2Khar3Zzzz4Khar10Zzzz7Khar9Zzzz7Sarb32Narb32Zzzz32Mani39Zzzz4Mani12Zzzz9Avst54",
    "Zzzz3Avst7Prti22Zzzz2Prti8Phli19Zzzz5Phli8Phlp18Zzzz7Phlp4Zzzz12Phlp7Zzzz80Orkh73Zzzz55Hung51",
    "Zzzz13Hung51Zzzz7Hung6Rohg40Zzzz8Rohg10Zzzz6Gara38Zzzz3Gara29Zzzz8Gara2Zzzz208Arab31Zzzz1",
    "Yezi42Zzzz1Yezi3Zzzz2Yezi2Zzzz16Arab3Zzzz55Arab4Sogo40Zzzz8Sogd42Zzzz22Ougr26Zzzz38Chrs28",
    "Zzzz20Elym23Zzzz9Brah78Zzzz4Brah36Zzzz9Brah1Kthi67Zzzz10Kthi1Zzzz2Sora25Zzzz7Sora10Zzzz6",
    "Cakm53Zzzz1Cakm18Zzzz8Mahj39Zzzz9Shrd96Zzzz1Sinh20Zzzz11Khoj18Zzzz1Khoj47Zzzz62Mult7Zzzz1",
    "Mult1Zzzz1Mult4Zzzz1Mult15Zzzz1Mult11Zzzz6Sind59Zzzz5Sind10Zzzz6Gran4Zzzz1Gran8Zzzz2Gran2",
    "Zzzz2Gran22Zzzz1Gran7Zzzz1Gran2Zzzz1Gran5Zzzz1Zinh1Gran9Zzzz2Gran2Zzzz2Gran3Zzzz2Gran1Zzzz6",
    "Gran1Zzzz5Gran7Zzzz2Gran7Zzzz3Gran5Zzzz11Tutg10Zzzz1Tutg1Zzzz2Tutg1Zzzz1Tutg38Zzzz1Tutg10",
    "Zzzz1Tutg1Zzzz2Tutg1Zzzz1Tutg4Zzzz1Tutg10Zzzz1Tutg2Zzzz8Tutg2Zzzz29Newa92Zzzz1Newa5Zzzz30",
    "Tirh72Zzzz8Tirh10Zzzz166Sidd54Zzzz2Sidd38Zzzz34Modi69Zzzz11Modi10Zzzz6Mong13Zzzz19Takr58Zzzz6",
    "Takr10Zzzz6Mymr20Zzzz28Ahom27Zzzz2Ahom15Zzzz4Ahom23Zzzz185Dogr60Zzzz100Wara83Zzzz12Wara1Diak7",
    "Zzzz2Diak1Zzzz2Diak8Zzzz1Diak2Zzzz1Diak30Zzzz1Diak2Zzzz2Diak12Zzzz9Diak10Zzzz70Nand8Zzzz2",
    "Nand46Zzzz2Nand11Zzzz27Zanb72Zzzz8Soyo83Zzzz13Cans16Pauc57Zzzz7Deva10Zzzz182Sunu34Zzzz14",
    "Sunu10Zzzz6Bhks9Zzzz1Bhks45Zzzz1Bhks14Zzzz10Bhks29Zzzz3Marc32Zzzz2Marc22Zzzz1Marc14Zzzz73",
    "Gonm7Zzzz1Gonm2Zzzz1Gonm44Zzzz3Gonm1Zzzz1Gonm2Zzzz1Gonm9Zzzz8Gonm10Zzzz6Gong6Zzzz1Gong2Zzzz1",
    "Gong37Zzzz1Gong2Zzzz1Gong6Zzzz7Gong10Zzzz310Maka25Zzzz7Kawi17Zzzz1Kawi41Zzzz3Kawi29Zzzz85",
    "Lisu1Zzzz15Taml50Zzzz13Taml1Xsux922Zzzz102Xsux111Zzzz1Xsux5Zzzz11Xsux196Zzzz2636Cpmn99Zzzz13",
    "Egyp1110Zzzz10Egyp3995Zzzz5Hluw583Zzzz6841Gukh58Zzzz1734Bamu569Zzzz7Mroo31Zzzz1Mroo10Zzzz4",
    "Mroo2Tnsa79Zzzz1Tnsa10Zzzz6Bass30Zzzz2Bass6Zzzz10Hmng70Zzzz10Hmng10Zzzz1Hmng7Zzzz1Hmng21Zzzz5",
    "Hmng19Zzzz432Krai58Zzzz198Medf91Zzzz101Plrd75Zzzz4Plrd57Zzzz7Plrd17Zzzz64Tang1Nshu1Hani2Kits1",
    "Zzzz11Hani2Zzzz14Tang6136Zzzz8Tang768Kits470Zzzz41Kits1Tang9Zzzz8935Kana4Zzzz1Kana7Zzzz1Kana2",
    "Zzzz1Kana1Hira287Kana3Zzzz15Hira1Zzzz29Hira3Zzzz2Kana1Zzzz14Kana4Zzzz8Nshu396Zzzz2308Dupl107",
    "Zzzz5Dupl13Zzzz3Dupl9Zzzz7Dupl10Zzzz2Dupl4Zyyy4Zzzz3932Zyyy250Zzzz6Zyyy436Zzzz76Zinh46Zzzz2",
    "Zinh23Zzzz9Zyyy116Zzzz60Zyyy246Zzzz10Zyyy39Zzzz2Zyyy62Zinh3Zyyy17Zinh8Zyyy2Zinh7Zyyy30Zinh4",
    "Zyyy61Zzzz21Grek70Zzzz122Zyyy20Zzzz12Zyyy20Zzzz12Zyyy87Zzzz9Zyyy25Zzzz135Zyyy85Zzzz1Zyyy71",
    "Zzzz1Zyyy2Zzzz2Zyyy1Zzzz2Zyyy2Zzzz2Zyyy4Zzzz1Zyyy12Zzzz1Zyyy1Zzzz1Zyyy7Zzzz1Zyyy65Zzzz1Zyyy4",
    "Zzzz2Zyyy8Zzzz1Zyyy7Zzzz1Zyyy28Zzzz1Zyyy4Zzzz1Zyyy5Zzzz1Zyyy1Zzzz3Zyyy7Zzzz1Zyyy340Zzzz2",
    "Zyyy292Zzzz2Zyyy50Sgnw652Zzzz15Sgnw5Zzzz1Sgnw15Zzzz1104Latn31Zzzz6Latn6Zzzz213Glag7Zzzz1",
    "Glag17Zzzz2Glag7Zzzz1Glag2Zzzz1Glag5Zzzz5Cyrl62Zzzz33Cyrl1Zzzz112Hmnp45Zzzz3Hmnp14Zzzz2Hmnp10",
    "Zzzz4Hmnp2Zzzz320Toto31Zzzz17Wcho58Zzzz5Wcho1Zzzz464Nagm42Zzzz214Onao43Zzzz4Onao1Zzzz480Ethi7",
    "Zzzz1Ethi4Zzzz1Ethi2Zzzz1Ethi15Zzzz1Mend197Zzzz2Mend16Zzzz41Adlm76Zzzz4Adlm10Zzzz4Adlm2",
    "Zzzz785Zyyy68Zzzz76Zyyy61Zzzz194Arab4Zzzz1Arab27Zzzz1Arab2Zzzz1Arab1Zzzz2Arab1Zzzz1Arab10",
    "Zzzz1Arab4Zzzz1Arab1Zzzz1Arab1Zzzz6Arab1Zzzz4Arab1Zzzz1Arab1Zzzz1Arab1Zzzz1Arab3Zzzz1Arab2",
    "Zzzz1Arab1Zzzz2Arab1Zzzz1Arab1Zzzz1Arab1Zzzz1Arab1Zzzz1Arab1Zzzz1Arab2Zzzz1Arab1Zzzz2Arab4",
    "Zzzz1Arab7Zzzz1Arab4Zzzz1Arab4Zzzz1Arab1Zzzz1Arab10Zzzz1Arab17Zzzz5Arab3Zzzz1Arab5Zzzz1Arab17",
    "Zzzz52Arab2Zzzz270Zyyy44Zzzz4Zyyy100Zzzz12Zyyy15Zzzz2Zyyy15Zzzz1Zyyy15Zzzz1Zyyy37Zzzz10",
    "Zyyy174Zzzz56Zyyy26Hira1Zyyy2Zzzz13Zyyy44Zzzz4Zyyy9Zzzz7Zyyy2Zzzz14Zyyy6Zzzz154Zyyy984Zzzz4",
    "Zyyy17Zzzz3Zyyy13Zzzz3Zyyy119Zzzz4Zyyy95Zzzz6Zyyy12Zzzz4Zyyy1Zzzz15Zyyy12Zzzz4Zyyy56Zzzz8",
    "Zyyy10Zzzz6Zyyy40Zzzz8Zyyy30Zzzz2Zyyy12Zzzz4Zyyy2Zzzz62Zyyy340Zzzz12Zyyy14Zzzz2Zyyy13Zzzz3",
    "Zyyy10Zzzz5Zyyy56Zzzz7Zyyy15Zzzz2Zyyy11Zzzz6Zyyy9Zzzz7Zyyy147Zzzz1Zyyy102Zzzz1030Hani42720",
    "Zzzz32Hani4154Zzzz6Hani222Zzzz2Hani5762Zzzz14Hani7473Zzzz15Hani622Zzzz2466Hani542Zzzz1506",
    "Hani4939Zzzz5Hani4192Zzzz711761Zyyy1Zzzz30Zyyy96Zzzz128Zinh240Zzzz196112"]

/-- The scripts of the code points that are used in others than their own, four letters each. -/
def extensionText : String :=
  String.join [
    "-183AvstCariCoptDuplElbaGeorGlagGongGothGrekHaniLatnLydiMahjPermShaw1-516",
    "BengCyrlDevaLatnLisuThaiToto1-10BopoLatn1-1BopoLatn3-1LatnLisu1-9LatnThai1-1BopoLatn1-38",
    "CherCoptCyrlGrekLatnPermSunuTale1CherCyrlGrekLatnOsgeSunuTaleTodr1CherCyrlLatnTfng1",
    "GlagLatnSunuSyrcThai1AghbCherCoptCyrlGothGrekLatnOsgeSyrcTfngTodr1CoptElbaGlagGothKanaLatn1",
    "CyrlGrekLatnPermTfng1CoptDuplHebrLatnPermSyrcTaleTfngTodr1",
    "ArmnCyrlDuplGothGrekHebrLatnPermSyrcTaleTfng1LatnTfng1DuplLatnSyrc1CherCyrlLatnOsge1",
    "CherLatnTale1LatnSunu1EthiLatn1-1LatnSunu1CyrlLatnTodr1-1GrekLatnPermTodr1-15",
    "CherDuplKanaLatnSyrcTfng1CherDuplLatnSyrc1LatnSyrc1-7LatnSunuSyrc1LatnSyrc1-1CherLatnSyrc1",
    "AghbCherGothLatnSunuSyrcThai1-16Grek1-2Grek1-18LatnOsge1-5AghbLatnTodr1-4Latn13-4CoptGrek2",
    "-269CyrlPerm1CyrlGlag1CyrlLatn2CyrlGlag1-257ArmnGeorGlag1-130ArabGaraNkooRohgSyrcThaaYezi1-14",
    "ArabGaraNkooRohgSyrcThaaYezi1ArabSyrcThaa1-2AdlmArabGaraNkooRohgSyrcThaaYezi1-32",
    "AdlmArabMandManiOugrPhlpRohgSogdSyrc1-10ArabSyrc11-10ArabThaaYezi10-6ArabSyrc1-99ArabRohg1",
    "-636BengDevaGranGujrGuruKndaLatnMlymNandNewaOryaShrdTamlTeluTirh1",
    "BengDevaGranGujrGuruKndaLatnMlymNewaOryaTamlTeluTirh1-17",
    "BengDevaDogrGongGonmGranGujrGuruKndaMahjMlymNandOnaoOryaSindSinhSyloTakrTamlTeluTirh1",
    "BengDevaDogrGongGonmGranGujrGukhGuruKndaLimbMahjMlymNandOnaoOryaSindSinhSyloTakrTamlTeluTirh1",
    "DevaDogrKthiMahj10-118BengCakmSylo10-118GuruMult10-118GujrKhoj10-246GranTaml14-242",
    "KndaNandTutg10-848CakmMymrTale10-177GeorGlagLatn1-1519Runr3-71BuhdHanoTagbTglg2-203MongPhag2",
    "-1MongPhag1-1226BengDevaGranKnda1Deva1BengDevaGranKnda1DevaGranKnda1Deva1",
    "BengDevaNewaTeluTirh1BengDevaTelu1DevaNewaShrd1BengDevaNewaTelu1DevaShrd1",
    "DevaKndaMlymOryaTamlTelu1Deva1DevaShrd2Deva2DevaShrd1BengDeva1DevaNewaTirh1Deva6DevaNandNewa1",
    "BengDevaShrd1DevaNewa1Deva1BengDevaNewaShrd1Deva4",
    "BengDevaGranKndaMlymNandOryaSinhTeluTirhTutg1DevaGran1DevaGranKndaTutg1BengDeva2Beng1",
    "DevaGran2Nand1-197Grek2-54CyrlLatnSyrc1-1Syrc1-564LatnMongPhag1-31AdlmArab1-10",
    "CariGeorGlagHungLyciOrkh1-2CariGrekHungMero1-146DevaGranLatn1-3366CoptLatn1-24AvstOrkh1",
    "AvstCariGeorHungKthiLydiSamr1-10Dupl1-4AdlmArabHung1-1CyrlGlag1-428HaniTang16-1",
    "BopoHangHaniHiraKanaMongYiii1BopoHangHaniHiraKanaMongPhagYiii1BopoHangHaniHiraKana1-2Hani1-1",
    "BopoHangHaniHiraKanaMongTibtYiii2BopoHangHaniHiraKanaLisuMongTibtYiii2",
    "BopoHangHaniHiraKanaYiii6-1BopoHangHaniHiraKana1BopoHangHaniHiraKanaYiii8",
    "BopoHangHaniHiraKana4-10BopoHani4-2BopoHangHaniHiraKana1HiraKana5-1BopoHangHaniHiraKana1-4",
    "HaniHiraKana2Hani2-89HiraKana4-3HiraKana1-90BopoHangHaniHiraKanaYiii1HiraKana1-147Hani16-32",
    "Hani38-9HaniTang1-48Hani40-56Hani49-15Hani12-51Hani1-88Hani25-10Hani5-96Hani31-29296CyrlGlag1",
    "-144HaniLatn8-296DevaDogrGujrGuruKhojKndaKthiMahjMlymModiNandShrdSindTakrTirhTutg3",
    "DevaDogrGujrGuruKhojKndaKthiMahjModiNandShrdSindTakrTirhTutg3",
    "DevaDogrGujrGuruKhojKthiMahjModiSindTakrTirh2",
    "DevaDogrGujrGuruKhojKthiMahjModiShrdSindTakrTirh1",
    "DevaDogrGujrGuruKhojKthiMahjModiSindTakrTirh1-183BengDevaTutg1-1DevaTaml1-58KaliLatnMymr1-160",
    "BugiJava1-21358ArabNkoo2-178ArabThaa1-10ArabThaa1-71BopoHangHaniHiraKana2-282",
    "BopoHangHaniHiraKanaYiii5-10HiraKana1-45HiraKana2-352CpmnCprtLinb2CprtLinb1-4CprtLinaLinb45-3",
    "CprtLinb9-416ArabCopt28-2038ManiOugr1-2062GranTaml1-1GranTaml1-55GranTaml2-3219GranTaml2-1",
    "GranTaml1-40140Dupl4-5820Hani18-7902Hani2-986542"]

/-- The runs of code points of the same script. -/
def runs : List Run := Run.list text

/-- The scripts of the code points that are used in others than their own. -/
def extensions : List Run := Run.list extensionText

/-- The names of the scripts in lower case, with their names of four letters. -/
def names : List (String × List String) :=
  [("Adlm", ["adlam"]), ("Aghb", ["caucasianalbanian"]), ("Ahom", []), ("Arab", ["arabic"]),
    ("Armi", ["imperialaramaic"]), ("Armn", ["armenian"]), ("Avst", ["avestan"]),
    ("Bali", ["balinese"]), ("Bamu", ["bamum"]), ("Bass", ["bassavah"]), ("Batk", ["batak"]),
    ("Beng", ["bengali"]), ("Bhks", ["bhaiksuki"]), ("Bopo", ["bopomofo"]), ("Brah", ["brahmi"]),
    ("Brai", ["braille"]), ("Bugi", ["buginese"]), ("Buhd", ["buhid"]), ("Cakm", ["chakma"]),
    ("Cans", ["canadianaboriginal"]), ("Cari", ["carian"]), ("Cham", []), ("Cher", ["cherokee"]),
    ("Chrs", ["chorasmian"]), ("Copt", ["coptic", "qaac"]), ("Cpmn", ["cyprominoan"]),
    ("Cprt", ["cypriot"]), ("Cyrl", ["cyrillic"]), ("Deva", ["devanagari"]),
    ("Diak", ["divesakuru"]), ("Dogr", ["dogra"]), ("Dsrt", ["deseret"]), ("Dupl", ["duployan"]),
    ("Egyp", ["egyptianhieroglyphs"]), ("Elba", ["elbasan"]), ("Elym", ["elymaic"]),
    ("Ethi", ["ethiopic"]), ("Gara", ["garay"]), ("Geor", ["georgian"]),
    ("Glag", ["glagolitic"]), ("Gong", ["gunjalagondi"]), ("Gonm", ["masaramgondi"]),
    ("Goth", ["gothic"]), ("Gran", ["grantha"]), ("Grek", ["greek"]), ("Gujr", ["gujarati"]),
    ("Gukh", ["gurungkhema"]), ("Guru", ["gurmukhi"]), ("Hang", ["hangul"]), ("Hani", ["han"]),
    ("Hano", ["hanunoo"]), ("Hatr", ["hatran"]), ("Hebr", ["hebrew"]), ("Hira", ["hiragana"]),
    ("Hluw", ["anatolianhieroglyphs"]), ("Hmng", ["pahawhhmong"]),
    ("Hmnp", ["nyiakengpuachuehmong"]), ("Hung", ["oldhungarian"]), ("Ital", ["olditalic"]),
    ("Java", ["javanese"]), ("Kali", ["kayahli"]), ("Kana", ["katakana"]), ("Kawi", []),
    ("Khar", ["kharoshthi"]), ("Khmr", ["khmer"]), ("Khoj", ["khojki"]),
    ("Kits", ["khitansmallscript"]), ("Knda", ["kannada"]), ("Krai", ["kiratrai"]),
    ("Kthi", ["kaithi"]), ("Lana", ["taitham"]), ("Laoo", ["lao"]), ("Latn", ["latin"]),
    ("Lepc", ["lepcha"]), ("Limb", ["limbu"]), ("Lina", ["lineara"]), ("Linb", ["linearb"]),
    ("Lisu", []), ("Lyci", ["lycian"]), ("Lydi", ["lydian"]), ("Mahj", ["mahajani"]),
    ("Maka", ["makasar"]), ("Mand", ["mandaic"]), ("Mani", ["manichaean"]),
    ("Marc", ["marchen"]), ("Medf", ["medefaidrin"]), ("Mend", ["mendekikakui"]),
    ("Merc", ["meroiticcursive"]), ("Mero", ["meroitichieroglyphs"]), ("Mlym", ["malayalam"]),
    ("Modi", []), ("Mong", ["mongolian"]), ("Mroo", ["mro"]), ("Mtei", ["meeteimayek"]),
    ("Mult", ["multani"]), ("Mymr", ["myanmar"]), ("Nagm", ["nagmundari"]),
    ("Nand", ["nandinagari"]), ("Narb", ["oldnortharabian"]), ("Nbat", ["nabataean"]),
    ("Newa", []), ("Nkoo", ["nko"]), ("Nshu", ["nushu"]), ("Ogam", ["ogham"]),
    ("Olck", ["olchiki"]), ("Onao", ["olonal"]), ("Orkh", ["oldturkic"]), ("Orya", ["oriya"]),
    ("Osge", ["osage"]), ("Osma", ["osmanya"]), ("Ougr", ["olduyghur"]), ("Palm", ["palmyrene"]),
    ("Pauc", ["paucinhau"]), ("Perm", ["oldpermic"]), ("Phag", ["phagspa"]),
    ("Phli", ["inscriptionalpahlavi"]), ("Phlp", ["psalterpahlavi"]), ("Phnx", ["phoenician"]),
    ("Plrd", ["miao"]), ("Prti", ["inscriptionalparthian"]), ("Rjng", ["rejang"]),
    ("Rohg", ["hanifirohingya"]), ("Runr", ["runic"]), ("Samr", ["samaritan"]),
    ("Sarb", ["oldsoutharabian"]), ("Saur", ["saurashtra"]), ("Sgnw", ["signwriting"]),
    ("Shaw", ["shavian"]), ("Shrd", ["sharada"]), ("Sidd", ["siddham"]), ("Sind", ["khudawadi"]),
    ("Sinh", ["sinhala"]), ("Sogd", ["sogdian"]), ("Sogo", ["oldsogdian"]),
    ("Sora", ["sorasompeng"]), ("Soyo", ["soyombo"]), ("Sund", ["sundanese"]),
    ("Sunu", ["sunuwar"]), ("Sylo", ["sylotinagri"]), ("Syrc", ["syriac"]),
    ("Tagb", ["tagbanwa"]), ("Takr", ["takri"]), ("Tale", ["taile"]), ("Talu", ["newtailue"]),
    ("Taml", ["tamil"]), ("Tang", ["tangut"]), ("Tavt", ["taiviet"]), ("Telu", ["telugu"]),
    ("Tfng", ["tifinagh"]), ("Tglg", ["tagalog"]), ("Thaa", ["thaana"]), ("Thai", []),
    ("Tibt", ["tibetan"]), ("Tirh", ["tirhuta"]), ("Tnsa", ["tangsa"]), ("Todr", ["todhri"]),
    ("Toto", []), ("Tutg", ["tulutigalari"]), ("Ugar", ["ugaritic"]), ("Vaii", ["vai"]),
    ("Vith", ["vithkuqi"]), ("Wara", ["warangciti"]), ("Wcho", ["wancho"]),
    ("Xpeo", ["oldpersian"]), ("Xsux", ["cuneiform"]), ("Yezi", ["yezidi"]), ("Yiii", ["yi"]),
    ("Zanb", ["zanabazarsquare"]), ("Zinh", ["inherited", "qaai"]), ("Zyyy", ["common"])]

/-- The name of four letters of a script, by any of its names in lower case. -/
def code? (name : String) : Option String :=
  (names.find? fun entry => Text.lowered entry.1 == name || entry.2.contains name).map Prod.fst

/-- The code points of a script. -/
def ofCode (code : String) : CharSet :=
  Run.among runs (· == code)

/-- The names of several scripts, written without anything between them. -/
def codes : List Char → List String
  | a :: b :: c :: d :: rest => String.ofList [a, b, c, d] :: codes rest
  | _ => []

/-- The code points that are used in a script. -/
def usedIn (code : String) : CharSet :=
  ((ofCode code).minus (Run.among extensions (· != "-"))).union
    (Run.among extensions fun mark => (codes mark.toList).contains code)

end Script

end MetricRelay.Unicode
