-- The script of every code point. Scripts go by four letters; `Zyyy` is what scripts have in
-- common, `Zinh` is what takes the script of its surroundings, and `Zzzz` is no script.
import Peg.Text.Runs

namespace Peg.Text

/-- The runs of code points of one script. -/
def scriptRuns : List Run := Run.readAll [
  "65Zyyy26Latn6Zyyy26Latn47Zyyy1Latn15Zyyy1Latn5Zyyy23Latn1Zyyy31Latn1Zyyy449Latn39Zyyy5Latn",
  "5Zyyy2Bopo20Zyyy112Zinh4Grek1Zyyy3Grek2Zzzz4Grek1Zyyy1Grek4Zzzz1Grek1Zyyy1Grek1Zyyy3Grek",
  "1Zzzz1Grek1Zzzz20Grek1Zzzz63Grek14Copt16Grek133Cyrl2Zinh169Cyrl1Zzzz38Armn2Zzzz50Armn2Zzzz",
  "3Armn1Zzzz55Hebr8Zzzz27Hebr4Zzzz6Hebr11Zzzz5Arab1Zyyy6Arab1Zyyy14Arab1Zyyy3Arab1Zyyy32Arab",
  "1Zyyy10Arab11Zinh26Arab1Zinh108Arab1Zyyy34Arab14Syrc1Zzzz60Syrc2Zzzz3Syrc48Arab50Thaa14Zzzz",
  "59Nkoo2Zzzz3Nkoo46Samr2Zzzz15Samr1Zzzz28Mand2Zzzz1Mand1Zzzz11Syrc5Zzzz31Arab1Zzzz2Arab6Zzzz",
  "74Arab1Zyyy29Arab81Deva4Zinh15Deva2Zyyy26Deva4Beng1Zzzz8Beng2Zzzz2Beng2Zzzz22Beng1Zzzz7Beng",
  "1Zzzz1Beng3Zzzz4Beng2Zzzz9Beng2Zzzz2Beng2Zzzz4Beng8Zzzz1Beng4Zzzz2Beng1Zzzz5Beng2Zzzz25Beng",
  "2Zzzz3Guru1Zzzz6Guru4Zzzz2Guru2Zzzz22Guru1Zzzz7Guru1Zzzz2Guru1Zzzz2Guru1Zzzz2Guru2Zzzz1Guru",
  "1Zzzz5Guru4Zzzz2Guru2Zzzz3Guru3Zzzz1Guru7Zzzz4Guru1Zzzz1Guru7Zzzz17Guru10Zzzz3Gujr1Zzzz9Gujr",
  "1Zzzz3Gujr1Zzzz22Gujr1Zzzz7Gujr1Zzzz2Gujr1Zzzz5Gujr2Zzzz10Gujr1Zzzz3Gujr1Zzzz3Gujr2Zzzz1Gujr",
  "15Zzzz4Gujr2Zzzz12Gujr7Zzzz7Gujr1Zzzz3Orya1Zzzz8Orya2Zzzz2Orya2Zzzz22Orya1Zzzz7Orya1Zzzz",
  "2Orya1Zzzz5Orya2Zzzz9Orya2Zzzz2Orya2Zzzz3Orya7Zzzz3Orya4Zzzz2Orya1Zzzz5Orya2Zzzz18Orya10Zzzz",
  "2Taml1Zzzz6Taml3Zzzz3Taml1Zzzz4Taml3Zzzz2Taml1Zzzz1Taml1Zzzz2Taml3Zzzz2Taml3Zzzz3Taml3Zzzz",
  "12Taml4Zzzz5Taml3Zzzz3Taml1Zzzz4Taml2Zzzz1Taml6Zzzz1Taml14Zzzz21Taml5Zzzz13Telu1Zzzz3Telu",
  "1Zzzz23Telu1Zzzz16Telu2Zzzz9Telu1Zzzz3Telu1Zzzz4Telu7Zzzz2Telu1Zzzz3Telu2Zzzz1Telu2Zzzz4Telu",
  "2Zzzz10Telu7Zzzz9Telu13Knda1Zzzz3Knda1Zzzz23Knda1Zzzz10Knda1Zzzz5Knda2Zzzz9Knda1Zzzz3Knda",
  "1Zzzz4Knda7Zzzz2Knda6Zzzz2Knda1Zzzz4Knda2Zzzz10Knda1Zzzz3Knda12Zzzz13Mlym1Zzzz3Mlym1Zzzz",
  "51Mlym1Zzzz3Mlym1Zzzz6Mlym4Zzzz16Mlym2Zzzz26Mlym1Zzzz3Sinh1Zzzz18Sinh3Zzzz24Sinh1Zzzz9Sinh",
  "1Zzzz1Sinh2Zzzz7Sinh3Zzzz1Sinh4Zzzz6Sinh1Zzzz1Sinh1Zzzz8Sinh6Zzzz10Sinh2Zzzz3Sinh12Zzzz",
  "58Thai4Zzzz1Zyyy28Thai37Zzzz2Laoo1Zzzz1Laoo1Zzzz5Laoo1Zzzz24Laoo1Zzzz1Laoo1Zzzz23Laoo2Zzzz",
  "5Laoo1Zzzz1Laoo1Zzzz7Laoo1Zzzz10Laoo2Zzzz4Laoo32Zzzz72Tibt1Zzzz36Tibt4Zzzz39Tibt1Zzzz36Tibt",
  "1Zzzz15Tibt1Zzzz7Tibt4Zyyy2Tibt37Zzzz160Mymr38Geor1Zzzz1Geor5Zzzz1Geor2Zzzz43Geor1Zyyy4Geor",
  "256Hang73Ethi1Zzzz4Ethi2Zzzz7Ethi1Zzzz1Ethi1Zzzz4Ethi2Zzzz41Ethi1Zzzz4Ethi2Zzzz33Ethi1Zzzz",
  "4Ethi2Zzzz7Ethi1Zzzz1Ethi1Zzzz4Ethi2Zzzz15Ethi1Zzzz57Ethi1Zzzz4Ethi2Zzzz67Ethi2Zzzz32Ethi",
  "3Zzzz26Ethi6Zzzz86Cher2Zzzz6Cher2Zzzz640Cans29Ogam3Zzzz75Runr3Zyyy11Runr7Zzzz22Tglg9Zzzz",
  "1Tglg21Hano2Zyyy9Zzzz20Buhd12Zzzz13Tagb1Zzzz3Tagb1Zzzz2Tagb12Zzzz94Khmr2Zzzz10Khmr6Zzzz",
  "10Khmr6Zzzz2Mong2Zyyy1Mong1Zyyy20Mong6Zzzz89Mong7Zzzz43Mong5Zzzz70Cans10Zzzz31Limb1Zzzz",
  "12Limb4Zzzz12Limb4Zzzz1Limb3Zzzz12Limb30Tale2Zzzz5Tale11Zzzz44Talu4Zzzz26Talu6Zzzz11Talu",
  "3Zzzz2Talu32Khmr28Bugi2Zzzz2Bugi63Lana1Zzzz29Lana2Zzzz11Lana6Zzzz10Lana6Zzzz14Lana2Zzzz",
  "31Zinh49Zzzz77Bali3Zzzz47Bali1Zzzz64Sund52Batk8Zzzz4Batk56Lepc3Zzzz15Lepc3Zzzz3Lepc48Olck",
  "9Cyrl7Zzzz43Geor2Zzzz3Geor8Sund8Zzzz3Zinh1Zyyy13Zinh1Zyyy7Zinh4Zyyy1Zinh6Zyyy1Zinh3Zyyy2Zinh",
  "1Zyyy5Zzzz38Latn5Grek1Cyrl49Latn5Grek4Latn5Grek13Latn1Cyrl70Latn1Grek64Zinh256Latn22Grek",
  "2Zzzz6Grek2Zzzz38Grek2Zzzz6Grek2Zzzz8Grek1Zzzz1Grek1Zzzz1Grek1Zzzz1Grek1Zzzz31Grek2Zzzz",
  "53Grek1Zzzz15Grek1Zzzz14Grek2Zzzz6Grek1Zzzz19Grek2Zzzz3Grek1Zzzz9Grek1Zzzz12Zyyy2Zinh87Zyyy",
  "1Zzzz11Zyyy1Latn2Zzzz11Zyyy1Latn15Zyyy1Zzzz13Latn3Zzzz33Zyyy15Zzzz33Zinh15Zzzz38Zyyy1Grek",
  "3Zyyy2Latn6Zyyy1Latn27Zyyy1Latn17Zyyy41Latn3Zyyy4Zzzz663Zyyy25Zzzz11Zyyy21Zzzz928Zyyy256Brai",
  "628Zyyy2Zzzz32Zyyy1Zzzz105Zyyy96Glag32Latn116Copt5Zzzz7Copt38Geor1Zzzz1Geor5Zzzz1Geor2Zzzz",
  "56Tfng7Zzzz2Tfng14Zzzz1Tfng23Ethi9Zzzz7Ethi1Zzzz7Ethi1Zzzz7Ethi1Zzzz7Ethi1Zzzz7Ethi1Zzzz",
  "7Ethi1Zzzz7Ethi1Zzzz7Ethi1Zzzz32Cyrl94Zyyy34Zzzz26Hani1Zzzz89Hani12Zzzz214Hani26Zzzz12Zyyy",
  "4Zzzz5Zyyy1Hani1Zyyy1Hani25Zyyy9Hani4Zinh2Hang8Zyyy4Hani4Zyyy1Zzzz86Hira2Zzzz2Zinh2Zyyy3Hira",
  "1Zyyy90Kana2Zyyy3Kana5Zzzz43Bopo1Zzzz94Hang1Zzzz16Zyyy32Bopo36Zyyy12Zzzz16Kana31Hang1Zzzz",
  "64Zyyy31Hang81Zyyy47Kana1Zyyy88Kana168Zyyy6592Hani64Zyyy20992Hani1165Yiii3Zzzz55Yiii9Zzzz",
  "48Lisu300Vaii20Zzzz96Cyrl88Bamu8Zzzz34Zyyy102Latn3Zyyy64Latn5Zzzz2Latn1Zzzz1Latn1Zzzz5Latn",
  "24Zzzz14Latn45Sylo3Zzzz10Zyyy6Zzzz56Phag8Zzzz70Saur8Zzzz12Saur6Zzzz32Deva46Kali1Zyyy1Kali",
  "36Rjng11Zzzz1Rjng29Hang3Zzzz78Java1Zzzz1Zyyy10Java4Zzzz2Java31Mymr1Zzzz55Cham9Zzzz14Cham",
  "2Zzzz10Cham2Zzzz4Cham32Mymr67Tavt24Zzzz5Tavt23Mtei10Zzzz6Ethi2Zzzz6Ethi2Zzzz6Ethi9Zzzz7Ethi",
  "1Zzzz7Ethi1Zzzz43Latn1Zyyy9Latn1Grek4Latn2Zyyy4Zzzz80Cher46Mtei2Zzzz10Mtei6Zzzz11172Hang",
  "12Zzzz23Hang4Zzzz49Hang8452Zzzz366Hani2Zzzz106Hani38Zzzz7Latn12Zzzz5Armn5Zzzz26Hebr1Zzzz",
  "5Hebr1Zzzz1Hebr1Zzzz2Hebr1Zzzz2Hebr1Zzzz10Hebr115Arab16Zzzz363Arab2Zyyy80Arab2Zzzz54Arab",
  "7Zzzz1Arab32Zzzz16Arab16Zinh10Zyyy6Zzzz14Zinh2Cyrl35Zyyy1Zzzz19Zyyy1Zzzz4Zyyy4Zzzz5Arab1Zzzz",
  "135Arab2Zzzz1Zyyy1Zzzz32Zyyy26Latn6Zyyy26Latn11Zyyy10Kana1Zyyy45Kana2Zyyy31Hang3Zzzz6Hang",
  "2Zzzz6Hang2Zzzz6Hang2Zzzz3Hang3Zzzz7Zyyy1Zzzz7Zyyy10Zzzz5Zyyy2Zzzz12Linb1Zzzz26Linb1Zzzz",
  "19Linb1Zzzz2Linb1Zzzz15Linb2Zzzz14Linb34Zzzz123Linb5Zzzz3Zyyy4Zzzz45Zyyy3Zzzz9Zyyy79Grek",
  "1Zzzz13Zyyy3Zzzz1Grek47Zzzz45Zyyy1Zinh130Zzzz29Lyci3Zzzz49Cari15Zzzz1Zinh27Zyyy4Zzzz36Ital",
  "9Zzzz3Ital27Goth5Zzzz43Perm5Zzzz30Ugar1Zzzz1Ugar36Xpeo4Zzzz14Xpeo42Zzzz80Dsrt48Shaw30Osma",
  "2Zzzz10Osma6Zzzz36Osge4Zzzz36Osge4Zzzz40Elba8Zzzz52Aghb11Zzzz1Aghb11Vith1Zzzz15Vith1Zzzz",
  "7Vith1Zzzz2Vith1Zzzz11Vith1Zzzz15Vith1Zzzz7Vith1Zzzz2Vith67Zzzz311Lina9Zzzz22Lina10Zzzz8Lina",
  "24Zzzz6Latn1Zzzz42Latn1Zzzz9Latn69Zzzz6Cprt2Zzzz1Cprt1Zzzz44Cprt1Zzzz2Cprt3Zzzz1Cprt2Zzzz",
  "1Cprt22Armi1Zzzz9Armi32Palm31Nbat8Zzzz9Nbat48Zzzz19Hatr1Zzzz2Hatr5Zzzz5Hatr28Phnx3Zzzz1Phnx",
  "26Lydi5Zzzz1Lydi64Zzzz32Mero24Merc4Zzzz20Merc2Zzzz46Merc4Khar1Zzzz2Khar5Zzzz8Khar1Zzzz3Khar",
  "1Zzzz29Khar2Zzzz3Khar4Zzzz10Khar7Zzzz9Khar7Zzzz32Sarb32Narb32Zzzz39Mani4Zzzz12Mani9Zzzz",
  "54Avst3Zzzz7Avst22Prti2Zzzz8Prti19Phli5Zzzz8Phli18Phlp7Zzzz4Phlp12Zzzz7Phlp80Zzzz73Orkh",
  "55Zzzz51Hung13Zzzz51Hung7Zzzz6Hung40Rohg8Zzzz10Rohg294Zzzz31Arab1Zzzz42Yezi1Zzzz3Yezi2Zzzz",
  "2Yezi75Zzzz3Arab40Sogo8Zzzz42Sogd22Zzzz26Ougr38Zzzz28Chrs20Zzzz23Elym9Zzzz78Brah4Zzzz36Brah",
  "9Zzzz1Brah67Kthi10Zzzz1Kthi2Zzzz25Sora7Zzzz10Sora6Zzzz53Cakm1Zzzz18Cakm8Zzzz39Mahj9Zzzz",
  "96Shrd1Zzzz20Sinh11Zzzz18Khoj1Zzzz47Khoj62Zzzz7Mult1Zzzz1Mult1Zzzz4Mult1Zzzz15Mult1Zzzz",
  "11Mult6Zzzz59Sind5Zzzz10Sind6Zzzz4Gran1Zzzz8Gran2Zzzz2Gran2Zzzz22Gran1Zzzz7Gran1Zzzz2Gran",
  "1Zzzz5Gran1Zzzz1Zinh9Gran2Zzzz2Gran2Zzzz3Gran2Zzzz1Gran6Zzzz1Gran5Zzzz7Gran2Zzzz7Gran3Zzzz",
  "5Gran139Zzzz92Newa1Zzzz5Newa30Zzzz72Tirh8Zzzz10Tirh166Zzzz54Sidd2Zzzz38Sidd34Zzzz69Modi",
  "11Zzzz10Modi6Zzzz13Mong19Zzzz58Takr6Zzzz10Takr54Zzzz27Ahom2Zzzz15Ahom4Zzzz23Ahom185Zzzz",
  "60Dogr100Zzzz83Wara12Zzzz1Wara7Diak2Zzzz1Diak2Zzzz8Diak1Zzzz2Diak1Zzzz30Diak1Zzzz2Diak2Zzzz",
  "12Diak9Zzzz10Diak70Zzzz8Nand2Zzzz46Nand2Zzzz11Nand27Zzzz72Zanb8Zzzz83Soyo13Zzzz16Cans57Pauc",
  "7Zzzz10Deva246Zzzz9Bhks1Zzzz45Bhks1Zzzz14Bhks10Zzzz29Bhks3Zzzz32Marc2Zzzz22Marc1Zzzz14Marc",
  "73Zzzz7Gonm1Zzzz2Gonm1Zzzz44Gonm3Zzzz1Gonm1Zzzz2Gonm1Zzzz9Gonm8Zzzz10Gonm6Zzzz6Gong1Zzzz",
  "2Gong1Zzzz37Gong1Zzzz2Gong1Zzzz6Gong7Zzzz10Gong310Zzzz25Maka7Zzzz17Kawi1Zzzz41Kawi3Zzzz",
  "28Kawi86Zzzz1Lisu15Zzzz50Taml13Zzzz1Taml922Xsux102Zzzz111Xsux1Zzzz5Xsux11Zzzz196Xsux2636Zzzz",
  "99Cpmn13Zzzz1110Egyp4010Zzzz583Hluw8633Zzzz569Bamu7Zzzz31Mroo1Zzzz10Mroo4Zzzz2Mroo79Tnsa",
  "1Zzzz10Tnsa6Zzzz30Bass2Zzzz6Bass10Zzzz70Hmng10Zzzz10Hmng1Zzzz7Hmng1Zzzz21Hmng5Zzzz19Hmng",
  "688Zzzz91Medf101Zzzz75Plrd4Zzzz57Plrd7Zzzz17Plrd64Zzzz1Tang1Nshu2Hani1Kits11Zzzz2Hani14Zzzz",
  "6136Tang8Zzzz768Tang470Kits42Zzzz9Tang8935Zzzz4Kana1Zzzz7Kana1Zzzz2Kana1Zzzz1Kana287Hira",
  "3Kana15Zzzz1Hira29Zzzz3Hira2Zzzz1Kana14Zzzz4Kana8Zzzz396Nshu2308Zzzz107Dupl5Zzzz13Dupl3Zzzz",
  "9Dupl7Zzzz10Dupl2Zzzz4Dupl4Zyyy4700Zzzz46Zinh2Zzzz23Zinh9Zzzz116Zyyy60Zzzz246Zyyy10Zzzz",
  "39Zyyy2Zzzz62Zyyy3Zinh17Zyyy8Zinh2Zyyy7Zinh30Zyyy4Zinh61Zyyy21Zzzz70Grek122Zzzz20Zyyy12Zzzz",
  "20Zyyy12Zzzz87Zyyy9Zzzz25Zyyy135Zzzz85Zyyy1Zzzz71Zyyy1Zzzz2Zyyy2Zzzz1Zyyy2Zzzz2Zyyy2Zzzz",
  "4Zyyy1Zzzz12Zyyy1Zzzz1Zyyy1Zzzz7Zyyy1Zzzz65Zyyy1Zzzz4Zyyy2Zzzz8Zyyy1Zzzz7Zyyy1Zzzz28Zyyy",
  "1Zzzz4Zyyy1Zzzz5Zyyy1Zzzz1Zyyy3Zzzz7Zyyy1Zzzz340Zyyy2Zzzz292Zyyy2Zzzz50Zyyy652Sgnw15Zzzz",
  "5Sgnw1Zzzz15Sgnw1104Zzzz31Latn6Zzzz6Latn213Zzzz7Glag1Zzzz17Glag2Zzzz7Glag1Zzzz2Glag1Zzzz",
  "5Glag5Zzzz62Cyrl33Zzzz1Cyrl112Zzzz45Hmnp3Zzzz14Hmnp2Zzzz10Hmnp4Zzzz2Hmnp320Zzzz31Toto17Zzzz",
  "58Wcho5Zzzz1Wcho464Zzzz42Nagm742Zzzz7Ethi1Zzzz4Ethi1Zzzz2Ethi1Zzzz15Ethi1Zzzz197Mend2Zzzz",
  "16Mend41Zzzz76Adlm4Zzzz10Adlm4Zzzz2Adlm785Zzzz68Zyyy76Zzzz61Zyyy194Zzzz4Arab1Zzzz27Arab1Zzzz",
  "2Arab1Zzzz1Arab2Zzzz1Arab1Zzzz10Arab1Zzzz4Arab1Zzzz1Arab1Zzzz1Arab6Zzzz1Arab4Zzzz1Arab1Zzzz",
  "1Arab1Zzzz1Arab1Zzzz3Arab1Zzzz2Arab1Zzzz1Arab2Zzzz1Arab1Zzzz1Arab1Zzzz1Arab1Zzzz1Arab1Zzzz",
  "1Arab1Zzzz2Arab1Zzzz1Arab2Zzzz4Arab1Zzzz7Arab1Zzzz4Arab1Zzzz4Arab1Zzzz1Arab1Zzzz10Arab1Zzzz",
  "17Arab5Zzzz3Arab1Zzzz5Arab1Zzzz17Arab52Zzzz2Arab270Zzzz44Zyyy4Zzzz100Zyyy12Zzzz15Zyyy2Zzzz",
  "15Zyyy1Zzzz15Zyyy1Zzzz37Zyyy10Zzzz174Zyyy56Zzzz26Zyyy1Hira2Zyyy13Zzzz44Zyyy4Zzzz9Zyyy7Zzzz",
  "2Zyyy14Zzzz6Zyyy154Zzzz984Zyyy4Zzzz17Zyyy3Zzzz13Zyyy3Zzzz119Zyyy4Zzzz95Zyyy6Zzzz12Zyyy4Zzzz",
  "1Zyyy15Zzzz12Zyyy4Zzzz56Zyyy8Zzzz10Zyyy6Zzzz40Zyyy8Zzzz30Zyyy2Zzzz2Zyyy78Zzzz340Zyyy12Zzzz",
  "14Zyyy2Zzzz13Zyyy3Zzzz9Zyyy7Zzzz46Zyyy1Zzzz7Zyyy8Zzzz14Zyyy4Zzzz9Zyyy7Zzzz9Zyyy7Zzzz147Zyyy",
  "1Zzzz55Zyyy37Zzzz10Zyyy1030Zzzz42720Hani32Zzzz4154Hani6Zzzz222Hani2Zzzz5762Hani14Zzzz",
  "7473Hani3103Zzzz542Hani1506Zzzz4939Hani5Zzzz4192Hani711761Zzzz1Zyyy30Zzzz96Zyyy128Zzzz",
  "240Zinh196112Zzzz"]

/-- Code points that are used in some other scripts than their own, or in more, with all the
scripts that they are used in. -/
def sharedRuns : List Run := [
  ⟨0x342, 0x342, "Grek"⟩, ⟨0x345, 0x345, "Grek"⟩, ⟨0x363, 0x36f, "Latn"⟩,
  ⟨0x483, 0x483, "Cyrl Perm"⟩, ⟨0x484, 0x484, "Cyrl Glag"⟩, ⟨0x485, 0x486, "Cyrl Latn"⟩,
  ⟨0x487, 0x487, "Cyrl Glag"⟩, ⟨0x60c, 0x60c, "Arab Nkoo Rohg Syrc Thaa Yezi"⟩,
  ⟨0x61b, 0x61b, "Arab Nkoo Rohg Syrc Thaa Yezi"⟩, ⟨0x61c, 0x61c, "Arab Syrc Thaa"⟩,
  ⟨0x61f, 0x61f, "Adlm Arab Nkoo Rohg Syrc Thaa Yezi"⟩,
  ⟨0x640, 0x640, "Adlm Arab Mand Mani Ougr Phlp Rohg Sogd Syrc"⟩, ⟨0x64b, 0x655, "Arab Syrc"⟩,
  ⟨0x660, 0x669, "Arab Thaa Yezi"⟩, ⟨0x670, 0x670, "Arab Syrc"⟩, ⟨0x6d4, 0x6d4, "Arab Rohg"⟩,
  ⟨0x951, 0x951, "Beng Deva Gran Gujr Guru Knda Latn Mlym Orya Shrd Taml Telu Tirh"⟩,
  ⟨0x952, 0x952, "Beng Deva Gran Gujr Guru Knda Latn Mlym Orya Taml Telu Tirh"⟩,
  ⟨0x964, 0x964, "Beng Deva Dogr Gong Gonm Gran Gujr Guru Knda Mahj Mlym Nand Orya Sind Sinh Sylo Takr Taml Telu Tirh"⟩,
  ⟨0x965, 0x965, "Beng Deva Dogr Gong Gonm Gran Gujr Guru Knda Limb Mahj Mlym Nand Orya Sind Sinh Sylo Takr Taml Telu Tirh"⟩,
  ⟨0x966, 0x96f, "Deva Dogr Kthi Mahj"⟩, ⟨0x9e6, 0x9ef, "Beng Cakm Sylo"⟩,
  ⟨0xa66, 0xa6f, "Guru Mult"⟩, ⟨0xae6, 0xaef, "Gujr Khoj"⟩, ⟨0xbe6, 0xbf3, "Gran Taml"⟩,
  ⟨0xce6, 0xcef, "Knda Nand"⟩, ⟨0x1040, 0x1049, "Cakm Mymr Tale"⟩, ⟨0x10fb, 0x10fb, "Geor Latn"⟩,
  ⟨0x1735, 0x1736, "Buhd Hano Tagb Tglg"⟩, ⟨0x1802, 0x1803, "Mong Phag"⟩,
  ⟨0x1805, 0x1805, "Mong Phag"⟩, ⟨0x1cd0, 0x1cd0, "Beng Deva Gran Knda"⟩,
  ⟨0x1cd1, 0x1cd1, "Deva"⟩, ⟨0x1cd2, 0x1cd2, "Beng Deva Gran Knda"⟩,
  ⟨0x1cd3, 0x1cd3, "Deva Gran"⟩, ⟨0x1cd4, 0x1cd4, "Deva"⟩, ⟨0x1cd5, 0x1cd6, "Beng Deva"⟩,
  ⟨0x1cd7, 0x1cd7, "Deva Shrd"⟩, ⟨0x1cd8, 0x1cd8, "Beng Deva"⟩, ⟨0x1cd9, 0x1cd9, "Deva Shrd"⟩,
  ⟨0x1cda, 0x1cda, "Deva Knda Mlym Orya Taml Telu"⟩, ⟨0x1cdb, 0x1cdb, "Deva"⟩,
  ⟨0x1cdc, 0x1cdd, "Deva Shrd"⟩, ⟨0x1cde, 0x1cdf, "Deva"⟩, ⟨0x1ce0, 0x1ce0, "Deva Shrd"⟩,
  ⟨0x1ce1, 0x1ce1, "Beng Deva"⟩, ⟨0x1ce2, 0x1ce8, "Deva"⟩, ⟨0x1ce9, 0x1ce9, "Deva Nand"⟩,
  ⟨0x1cea, 0x1cea, "Beng Deva"⟩, ⟨0x1ceb, 0x1cec, "Deva"⟩, ⟨0x1ced, 0x1ced, "Beng Deva"⟩,
  ⟨0x1cee, 0x1cf1, "Deva"⟩, ⟨0x1cf2, 0x1cf2, "Beng Deva Gran Knda Nand Orya Telu Tirh"⟩,
  ⟨0x1cf3, 0x1cf3, "Deva Gran"⟩, ⟨0x1cf4, 0x1cf4, "Deva Gran Knda"⟩,
  ⟨0x1cf5, 0x1cf6, "Beng Deva"⟩, ⟨0x1cf7, 0x1cf7, "Beng"⟩, ⟨0x1cf8, 0x1cf9, "Deva Gran"⟩,
  ⟨0x1cfa, 0x1cfa, "Nand"⟩, ⟨0x1dc0, 0x1dc1, "Grek"⟩, ⟨0x1df8, 0x1df8, "Cyrl Syrc"⟩,
  ⟨0x1dfa, 0x1dfa, "Syrc"⟩, ⟨0x202f, 0x202f, "Latn Mong"⟩, ⟨0x20f0, 0x20f0, "Deva Gran Latn"⟩,
  ⟨0x2e43, 0x2e43, "Cyrl Glag"⟩, ⟨0x3001, 0x3002, "Bopo Hang Hani Hira Kana Yiii"⟩,
  ⟨0x3003, 0x3003, "Bopo Hang Hani Hira Kana"⟩, ⟨0x3006, 0x3006, "Hani"⟩,
  ⟨0x3008, 0x3011, "Bopo Hang Hani Hira Kana Yiii"⟩,
  ⟨0x3013, 0x3013, "Bopo Hang Hani Hira Kana"⟩,
  ⟨0x3014, 0x301b, "Bopo Hang Hani Hira Kana Yiii"⟩,
  ⟨0x301c, 0x301f, "Bopo Hang Hani Hira Kana"⟩, ⟨0x302a, 0x302d, "Bopo Hani"⟩,
  ⟨0x3030, 0x3030, "Bopo Hang Hani Hira Kana"⟩, ⟨0x3031, 0x3035, "Hira Kana"⟩,
  ⟨0x3037, 0x3037, "Bopo Hang Hani Hira Kana"⟩, ⟨0x303c, 0x303d, "Hani Hira Kana"⟩,
  ⟨0x303e, 0x303f, "Hani"⟩, ⟨0x3099, 0x309c, "Hira Kana"⟩, ⟨0x30a0, 0x30a0, "Hira Kana"⟩,
  ⟨0x30fb, 0x30fb, "Bopo Hang Hani Hira Kana Yiii"⟩, ⟨0x30fc, 0x30fc, "Hira Kana"⟩,
  ⟨0x3190, 0x319f, "Hani"⟩, ⟨0x31c0, 0x31e3, "Hani"⟩, ⟨0x3220, 0x3247, "Hani"⟩,
  ⟨0x3280, 0x32b0, "Hani"⟩, ⟨0x32c0, 0x32cb, "Hani"⟩, ⟨0x32ff, 0x32ff, "Hani"⟩,
  ⟨0x3358, 0x3370, "Hani"⟩, ⟨0x337b, 0x337f, "Hani"⟩, ⟨0x33e0, 0x33fe, "Hani"⟩,
  ⟨0xa66f, 0xa66f, "Cyrl Glag"⟩, ⟨0xa700, 0xa707, "Hani Latn"⟩,
  ⟨0xa830, 0xa832, "Deva Dogr Gujr Guru Khoj Knda Kthi Mahj Mlym Modi Nand Sind Takr Tirh"⟩,
  ⟨0xa833, 0xa835, "Deva Dogr Gujr Guru Khoj Knda Kthi Mahj Modi Nand Sind Takr Tirh"⟩,
  ⟨0xa836, 0xa839, "Deva Dogr Gujr Guru Khoj Kthi Mahj Modi Sind Takr Tirh"⟩,
  ⟨0xa8f1, 0xa8f1, "Beng Deva"⟩, ⟨0xa8f3, 0xa8f3, "Deva Taml"⟩,
  ⟨0xa92e, 0xa92e, "Kali Latn Mymr"⟩, ⟨0xa9cf, 0xa9cf, "Bugi Java"⟩,
  ⟨0xfd3e, 0xfd3f, "Arab Nkoo"⟩, ⟨0xfdf2, 0xfdf2, "Arab Thaa"⟩, ⟨0xfdfd, 0xfdfd, "Arab Thaa"⟩,
  ⟨0xfe45, 0xfe46, "Bopo Hang Hani Hira Kana"⟩,
  ⟨0xff61, 0xff65, "Bopo Hang Hani Hira Kana Yiii"⟩, ⟨0xff70, 0xff70, "Hira Kana"⟩,
  ⟨0xff9e, 0xff9f, "Hira Kana"⟩, ⟨0x10100, 0x10101, "Cpmn Cprt Linb"⟩,
  ⟨0x10102, 0x10102, "Cprt Linb"⟩, ⟨0x10107, 0x10133, "Cprt Lina Linb"⟩,
  ⟨0x10137, 0x1013f, "Cprt Linb"⟩, ⟨0x102e0, 0x102fb, "Arab Copt"⟩,
  ⟨0x10af2, 0x10af2, "Mani Ougr"⟩, ⟨0x11301, 0x11301, "Gran Taml"⟩,
  ⟨0x11303, 0x11303, "Gran Taml"⟩, ⟨0x1133b, 0x1133c, "Gran Taml"⟩,
  ⟨0x11fd0, 0x11fd1, "Gran Taml"⟩, ⟨0x11fd3, 0x11fd3, "Gran Taml"⟩, ⟨0x1bca0, 0x1bca3, "Dupl"⟩,
  ⟨0x1d360, 0x1d371, "Hani"⟩, ⟨0x1f250, 0x1f251, "Hani"⟩]

/-- The characters of a script. -/
def ofScript (script : String) : CodeSet := .ofRuns scriptRuns (· == script)

/-- The characters that are used in a script. -/
def usedInScript (script : String) : CodeSet :=
  ((ofScript script).difference (.ofRuns sharedRuns fun _ => true)).union
    (.ofRuns sharedRuns fun scripts => (scripts.splitOn " ").contains script)

/-- The names of every script, its four letters among them. -/
def scriptNames : List (List String) := [
  ["Adlm", "Adlam"], ["Aghb", "Caucasian_Albanian"], ["Ahom", "Ahom"], ["Arab", "Arabic"],
  ["Armi", "Imperial_Aramaic"], ["Armn", "Armenian"], ["Avst", "Avestan"], ["Bali", "Balinese"],
  ["Bamu", "Bamum"], ["Bass", "Bassa_Vah"], ["Batk", "Batak"], ["Beng", "Bengali"],
  ["Bhks", "Bhaiksuki"], ["Bopo", "Bopomofo"], ["Brah", "Brahmi"], ["Brai", "Braille"],
  ["Bugi", "Buginese"], ["Buhd", "Buhid"], ["Cakm", "Chakma"], ["Cans", "Canadian_Aboriginal"],
  ["Cari", "Carian"], ["Cham", "Cham"], ["Cher", "Cherokee"], ["Chrs", "Chorasmian"],
  ["Copt", "Coptic", "Qaac"], ["Cpmn", "Cypro_Minoan"], ["Cprt", "Cypriot"],
  ["Cyrl", "Cyrillic"], ["Deva", "Devanagari"], ["Diak", "Dives_Akuru"], ["Dogr", "Dogra"],
  ["Dsrt", "Deseret"], ["Dupl", "Duployan"], ["Egyp", "Egyptian_Hieroglyphs"],
  ["Elba", "Elbasan"], ["Elym", "Elymaic"], ["Ethi", "Ethiopic"], ["Geor", "Georgian"],
  ["Glag", "Glagolitic"], ["Gong", "Gunjala_Gondi"], ["Gonm", "Masaram_Gondi"],
  ["Goth", "Gothic"], ["Gran", "Grantha"], ["Grek", "Greek"], ["Gujr", "Gujarati"],
  ["Guru", "Gurmukhi"], ["Hang", "Hangul"], ["Hani", "Han"], ["Hano", "Hanunoo"],
  ["Hatr", "Hatran"], ["Hebr", "Hebrew"], ["Hira", "Hiragana"],
  ["Hluw", "Anatolian_Hieroglyphs"], ["Hmng", "Pahawh_Hmong"],
  ["Hmnp", "Nyiakeng_Puachue_Hmong"], ["Hung", "Old_Hungarian"], ["Ital", "Old_Italic"],
  ["Java", "Javanese"], ["Kali", "Kayah_Li"], ["Kana", "Katakana"], ["Kawi", "Kawi"],
  ["Khar", "Kharoshthi"], ["Khmr", "Khmer"], ["Khoj", "Khojki"], ["Kits", "Khitan_Small_Script"],
  ["Knda", "Kannada"], ["Kthi", "Kaithi"], ["Lana", "Tai_Tham"], ["Laoo", "Lao"],
  ["Latn", "Latin"], ["Lepc", "Lepcha"], ["Limb", "Limbu"], ["Lina", "Linear_A"],
  ["Linb", "Linear_B"], ["Lisu", "Lisu"], ["Lyci", "Lycian"], ["Lydi", "Lydian"],
  ["Mahj", "Mahajani"], ["Maka", "Makasar"], ["Mand", "Mandaic"], ["Mani", "Manichaean"],
  ["Marc", "Marchen"], ["Medf", "Medefaidrin"], ["Mend", "Mende_Kikakui"],
  ["Merc", "Meroitic_Cursive"], ["Mero", "Meroitic_Hieroglyphs"], ["Mlym", "Malayalam"],
  ["Modi", "Modi"], ["Mong", "Mongolian"], ["Mroo", "Mro"], ["Mtei", "Meetei_Mayek"],
  ["Mult", "Multani"], ["Mymr", "Myanmar"], ["Nagm", "Nag_Mundari"], ["Nand", "Nandinagari"],
  ["Narb", "Old_North_Arabian"], ["Nbat", "Nabataean"], ["Newa", "Newa"], ["Nkoo", "Nko"],
  ["Nshu", "Nushu"], ["Ogam", "Ogham"], ["Olck", "Ol_Chiki"], ["Orkh", "Old_Turkic"],
  ["Orya", "Oriya"], ["Osge", "Osage"], ["Osma", "Osmanya"], ["Ougr", "Old_Uyghur"],
  ["Palm", "Palmyrene"], ["Pauc", "Pau_Cin_Hau"], ["Perm", "Old_Permic"], ["Phag", "Phags_Pa"],
  ["Phli", "Inscriptional_Pahlavi"], ["Phlp", "Psalter_Pahlavi"], ["Phnx", "Phoenician"],
  ["Plrd", "Miao"], ["Prti", "Inscriptional_Parthian"], ["Rjng", "Rejang"],
  ["Rohg", "Hanifi_Rohingya"], ["Runr", "Runic"], ["Samr", "Samaritan"],
  ["Sarb", "Old_South_Arabian"], ["Saur", "Saurashtra"], ["Sgnw", "SignWriting"],
  ["Shaw", "Shavian"], ["Shrd", "Sharada"], ["Sidd", "Siddham"], ["Sind", "Khudawadi"],
  ["Sinh", "Sinhala"], ["Sogd", "Sogdian"], ["Sogo", "Old_Sogdian"], ["Sora", "Sora_Sompeng"],
  ["Soyo", "Soyombo"], ["Sund", "Sundanese"], ["Sylo", "Syloti_Nagri"], ["Syrc", "Syriac"],
  ["Tagb", "Tagbanwa"], ["Takr", "Takri"], ["Tale", "Tai_Le"], ["Talu", "New_Tai_Lue"],
  ["Taml", "Tamil"], ["Tang", "Tangut"], ["Tavt", "Tai_Viet"], ["Telu", "Telugu"],
  ["Tfng", "Tifinagh"], ["Tglg", "Tagalog"], ["Thaa", "Thaana"], ["Thai", "Thai"],
  ["Tibt", "Tibetan"], ["Tirh", "Tirhuta"], ["Tnsa", "Tangsa"], ["Toto", "Toto"],
  ["Ugar", "Ugaritic"], ["Vaii", "Vai"], ["Vith", "Vithkuqi"], ["Wara", "Warang_Citi"],
  ["Wcho", "Wancho"], ["Xpeo", "Old_Persian"], ["Xsux", "Cuneiform"], ["Yezi", "Yezidi"],
  ["Yiii", "Yi"], ["Zanb", "Zanabazar_Square"], ["Zinh", "Inherited", "Qaai"],
  ["Zyyy", "Common"], ["Zzzz", "Unknown"]]

end Peg.Text
