/-!
**The character tables of Unicode 15.0.**

Each class of characters is a table of closed code-point ranges in increasing order; the
upper-case letters, which often alternate one by one with lower-case ones, are a table of ranges
taken with a stride. The case table gives, for each range of code points that change under a
case map, how they change: by fixed offsets to the upper-case and lower-case forms, or by
alternation, where the code points at even offsets from the start of the range are upper case
and map to their successor, and those at odd offsets are lower case and map to their
predecessor. Code points outside every range of the case table are left alone by both maps.
A table is written by gaps and widths: each range starts `gap` code points past the end of the
one before (past 0 for the first) and ends `width` code points past its start. The numbers are
written in letters (`numbers`): each in base 26, most significant digit first, its last digit a
lower-case letter and the others upper-case letters, so that `Cn` is 65; the offsets of the case
table, which can be negative, are written as `2n` for `n` and `2n - 1` for `-n` (`signed`). The
tables are irreducible: they are evaluated, never unfolded while a proof is elaborated.

* `letterRanges`: general category L (letters).
* `digitRanges`: general category Nd (decimal digits).
* `upperRanges`: category Lu.
* `otherPrintRanges`: categories M, N, P and S (marks, numbers, punctuation, symbols), which
  with the letters are the printable characters.
* `caseRanges`: the simple upper-case and lower-case maps.
-/

namespace StaticWrap.Text

/-- A table of closed code-point ranges. -/
abbrev Ranges := List (Nat × Nat)

/-- A table of ranges with a stride: `(lo, hi, step)` holds `lo`, `lo + step`, … up to `hi`. -/
abbrev StridedRanges := List (Nat × Nat × Nat)

/-- How the code points of a range change under the two case maps. -/
inductive CaseShift where
  /-- Each code point moves by fixed offsets to its upper-case and lower-case form. -/
  | shift (upper lower : Int)
  /-- Upper-case and lower-case letters alternate, starting with an upper-case one. -/
  | alternating
  deriving DecidableEq, Repr

/-- The ranges written by gaps and widths after the code point `last`. -/
def rangesFrom (last : Nat) : List Nat → Ranges
  | gap :: width :: rest => (last + gap, last + gap + width) :: rangesFrom (last + gap + width) rest
  | _ => []

/-- The strided ranges written by gaps, widths and strides after the code point `last`. -/
def stridedFrom (last : Nat) : List Nat → StridedRanges
  | gap :: width :: step :: rest =>
    (last + gap, last + gap + width, step) :: stridedFrom (last + gap + width) rest
  | _ => []

/-- The case ranges written by gaps, widths and the offsets to the upper-case and lower-case
forms after the code point `last`; the offsets `0, 0`, which would change nothing, mark an
alternating range. -/
def casesFrom (last : Nat) : List Int → List (Nat × Nat × CaseShift)
  | gap :: width :: upper :: lower :: rest =>
    let lo := last + gap.toNat
    (lo, lo + width.toNat, if upper == 0 && lower == 0 then .alternating else .shift upper lower) ::
      casesFrom (lo + width.toNat) rest
  | _ => []

/-- The numbers written in letters after the digits `acc` read so far; characters that are not
ASCII letters only lay the text out. -/
def numbersFrom (acc : Nat) : List Char → List Nat
  | [] => []
  | c :: cs =>
    if c.isLower then (acc * 26 + (c.toNat - 'a'.toNat)) :: numbersFrom 0 cs
    else if c.isUpper then numbersFrom (acc * 26 + (c.toNat - 'A'.toNat)) cs
    else numbersFrom acc cs

/-- The numbers a text writes in letters. -/
def numbers (text : String) : List Nat := numbersFrom 0 text.toList

/-- The number that `z` writes as a signed one: `n` for `2n` and `-n` for `2n - 1`. -/
def signed (z : Nat) : Int := if z % 2 = 0 then (z / 2 : Nat) else -((z + 1) / 2 : Nat)

/-- Letters: general category L. -/
@[irreducible] def letterRanges : Ranges :=
  rangesFrom 0 <| numbers
  "CnzhzBwalafagwcBecRpflpeiacaFaecbddcahacccactcDecFijGjcBldahBoCuBafdBuBqBkbcDucaqbiblcdaracBd
   BeDkmazBgkbfagvfakaeayyikgxcfsBpChCbeataijqpfhdbdvcgcaedearaobccpblajffbdvcgcbcbcbBgdcaucricc
   cvcgcbceeataqbyamhdbdvcgcbceeaBfbccqasacfeccdebcacbebecelxaCbhcccwcpeaBbcdadbBfafhcccwcjceea
   BgbcbqbsicccBodaragcjczfgrexcicadgChBvcbngChbcacecxcacjcbkadecawdBhaCmhcBjBceEmBqvarffdeaebic
   fmnasBlcagadBqcMucddgcacddBocddBgcddgcacddocCecddCoBmprDhdfeXvdqczgCwhhirosprpmccqBzBkafaCqDk
   iedBhcagCrlBeByBddemBrfzCdwkCaDfaDqBushCdBdoblBrBbBjBqclBjdiiBqdcBqdcfcbeagHjCnKrdfdBldfdhcac
   acacBedCacgcaeccgeddffmgccgEnaoarmDyafadjcaeehacacacdckddgefaCbbDZgIuhdebnBlcagadCdiarwkgcgcg
   cgcgcgcgcgDdaScbBregbfDhhccDlcdgBqcDpsBfBxpTtJTnCnBGUeCqBtdKieplbvBurBedCrByidDydClgbcacezpcc
   cdcwBeBzpBxClfeacbmBblwBaBciBuBdarecjlecBoycchvweaeBxcaebdedacazcdkicnfdfdfkgcgcBqcnhEkBeQNrn
   wfBwMNdObdEbBngnegacjcmcecacbcbcEdBiNytCldCbBplEnecFeBlzhzmDkefdfdfdcBklczcscbcodnBjEsPaBceBw
   BwBfotchhBllBddBjfhBxGbtBjfBjfBnjBznkcocgcbckcocgcbCqLykvlhzfcBpciCsfdacBrcbeadwlwkBeCoscblvl
   zCtCdhbCnaqdcccBcBrBceBcBkhcBbBcCblvlsorEhCuCeByoByoBjNlBphbDbBclajvBrrBvuBcwnCaCgbdaoBsBhyBb
   BjBeadajBieanBvpdwacaBkrcyubCmgcacdcocjiBuBnhdbdvcgcbceeataneGdCatdvcBfBvvbcaHdBuBqdBlBvvaCi
   BqoaCuBaBmgHeBrEnClBghdadhcbcxqacaDrhdBmracaBdalBniawamBtuatCuKeicBksaByBdEjgcbcBlwaBafcbcBfp
   aMqsqacmcBhEvaDcBJlIxHnDXlDsqBPfsfFYwWkMUcVwiBesDasBdtBvrdBgugsBAnClEzCwgaCpmCnbcaBdJBzjBVpBr
   iNFsdcgcbcLeqaBecdapdjPfDKvEcgmeiijIWlDgcCscbdadbddclcacgcCmcddhcgcBbcdcecaegcNbdycycBecycBec
   ycBecycBecychCSzBehfKcCjFrBslgraMkBdtBrSrBbBDdgcdcbcocHoCiCpiaBUjdcBacbcadacjcdcacahafacacacc
   cbcadacacacacacbcaddcgcdcdcacjcqgccecqGObCLFbBhGDthIndINppLBkEPkUvCFzHHygGFf"

/-- Decimal digits: general category Nd. -/
@[irreducible] def digitRanges : Ranges :=
  rangesFrom 0 <| numbers
  "BwjCIpjFfjHrjPxjEpjEpjEpjEpjEpjEpjEpjEpjEpjDtjEpjCtjKtjCtjCTrjBnjLpjEzjGljhjHbjDjjFfjhjCAEpj
   BAdjBnjHrjxjDjjPrjBFMdjCCljDFzjBFhjEzjCjjFpjKtjNfjEpjOljDzjDzjQhjDzjBDfjJnjCtjQhjBCKtjDjjFfj
   BPBxBxDNdjQhjTjjBQtjHBbj"

/-- Upper-case letters: general category Lu. -/
@[irreducible] def upperRanges : StridedRanges :=
  stridedFrom 0 <| numbers
  "CnzbDywbcgbBiCccdocdBsccbbcccebbcabcbbccbddbcbbccbebbcbbccccbbcabdabcbbccbcabcbbeabiabdabdabd
   ocdqcdabdabccbcCecibbcbbdabcdbcgcLecceabjabhabccbcabcbbcqbcibBkabdcbewcgabdabcbbdBybBxBgckCac
   cbbckcdDqcdBlbEHeBlbcabgabBBvDhbDGtBqbdcbMjFsckDsckhbjfblhbjhbjfbmgcjhbCvdbndbndbnebmdbKdabfa
   becbdcbdabeebheccdbddblbbgabCkabDZhBvbBxabccbdeccdbcabdabjcbcDscjccfabBTYkBscuBacFgmceCiclccc
   bbcgcfccdccesccebcebcmccdbcabhabgccBdabBHAizbBVaBnbFhBjbGbkbcobcgbcbbCQdBybENmBfbBGJxBfbBMMrz
   bBbzbBbzbBbabcbbdabdbbddbchbBbzbBbbbcdbdhbcgbBcbbcdbcebcabegbBczbBbzbBbzbBbzbBbzbBbzbBfybBiyb
   BiybBiybBiybBiabGNmBhb"

/-- Printable characters that are not letters: categories M, N, P and S. -/
@[irreducible] def otherPrintRanges : Ranges :=
  rangesFrom 0 <| numbers
  "BhBfBbfBbdBjicbcgcdceyaBgaRrdnnggcacEygajagbcaEhaFkhIbfBqbdccCcBsbsvccBsBidaDwacgcgdgdjebcnea
   BfBaDokqjBiiddecxdcicccedoBbcdaBqaqhBrxcBgCdccrcglorcCfacgdbdckalbdjdjcbdcCfacefbdceavleblcCf
   achccccvbdljfccCfacgdbdciclbdkcflaCieeccdkapugeCeacgcccdibmbdjiicdCeacgcccdibmbdjeandCebcgccc
   dcaihebdticCtaffcachhjdcCjadgfaiuDiadimgcjBoCkBywgkcBjcocmDdtcphdfcccdgedolcqDoaXmBfujDzaXxb
   BtbDbfBidBdeBcbBfbCnBicdcadjhjhnckEebBjaEplflfaelEzkeBhyedbCcjcBcdkhjhgcfdBeByeBwqmBuccBfmdj
   BtnjdBlteohjBlbCnhjyfahadcHrClReaccmcococobsxjBusaekcosBgqBgqbcdcblaccgfcacacafambfegdcBzdgf
   ZmBakwCRrdBfcEaIwffcigEjapaDtDacBtBjzcDknIfBblgddBpgedcDmdeaDnaFtpBhBjBdBecSlJTpClBGUjCcCebKk
   crjCspBgbCtrjwkbEabEqaeafayjejChdjbBzrjlhrhccadkBdjymmaBhdBwBadjfbgaljBwnnajbdjddycccBzaccdbg
   bcaBdbmgebDxapbEqkdjBDZhalaFhqOqrEyaBtBdhBycscdFuBfBbfBbkEtgcgobJzcfBseDjcmeaBwBtItBbBldBeaja
   BseBlaBxfHvjHqaBCqiyiBoiCyexfeaBgaEvbdpdBtcccbgdBpcfjiiBlcBecBpaBdbflCpgzhzhBadngMtfBldjjLjBe
   BtcDccBejBgtBphCigCbcCcvfBedbldBumceBujhcBlncncbBtclcBxnfucaccctCesdaEaaCclgjhdCebcgdbdckalbd
   geeHlrfqcbDetdakjIggdBffbDftnjhmClmcahjDgofpJdpGjsCkfcbddcacekjEqgdgcacaBdjBpgcmkkBvsceDqjLih
   chcelBcebBhvcnEtfeacbcgcajjBxecbcejjMsfibcaBxgeBbDzBxoaBNlEgceEJdbBQkahoUMdjfbDdjBnfChpfbljcg
   BEtBaGzacCcidDcacambBDAxdGYzBtdwkElCjJllBmdCvjEhwCrEttntnDikyBGjaBaaBgaBaaBgaBaaBgaBaaBgaBaal
   BAzqecoCAjgcqdgcbceDxaGfgkjgaNnaCkngaSznBLmpEgggjfbBEgCpCzCiQtbKlBrfDvnodococBklGrCfBcoBrfiib
   pfFzBLvfqemeEofDqhlfaqlfCdjjhBnjBddbDbNbnndmeiiBtcgjnfiiiiFqcCcBmjBSVGxJf"

/-- The simple case maps, by ranges of code points that change under at least one of them. -/
@[irreducible] def caseRanges : List (Nat × Nat × CaseShift) :=
  casesFrom 0 <| (numbers
  "FaByaCmoByClaEoaCFeawBsaCmemaCmeBsClaemClacaJiacDqaacaaPhcaRvackaaeBeaaeDmaacaaJhckaacaXbaca
   PaacaaQecgaacaaPwcaaccabaccaPucaaccabaeaaGccaaPocaaPqcaaccabacaaPucaaPycaHmacaaQgcaaQccaaccab
   acaMoaeaaQgcaaQkcaKaacaaQmckaacaaQucaaccabacaaQugaaccabacaaQucaaccabaccaQscgaacaaQwcaaccabaga
   accabaeaEiakaaecabccadacaaecabccadacaaecabccadacBeaacaGbacBiaaeaaecabccadacaaccabacaaHlcaaEhc
   DaaacaaJzeBiaaoaaBFYkcaaccabacaaMncaaBFYeccBFZyacaaccabacaaOzcaaFicaaFmcsaacaBFXmacaBFXgaca
   BFXkacaQdacaPvaecPtaeaPnaeaPpacaEVFiaiaPtacaEVFaaeaPxaeaEVCiacaEVEmaeaQbacaQfacaEVEmacaBFUkac
   aEVEgagaQfaeaBFUwacaQjagaQlaqaBFTeagaQtaeaEVEkacaQtaiaEVCmacaQtacaFhaccQracaFlamaQvawaEVAwaca
   EVAqaMwaGmaDigaagaaccabaieKaaeaaIyoaaCyeeaCweaaEyecaEweBgaCmeqaCmcaCxaceCvaeBgClacaCjacqClaca
   ExaccEvacaaqcaEtacaEjaiaDpacaEdacapacBuaacaGpacaGdacaoacaIxacaaEpcaHjaeaaccabacaancaaccabaeea
   JzcBeaGecCkaCmcCkClacBeGdacCoaasEcaacaaBecBaaacaBdacHiaaeCwaDswCwDraIKqCwaVMueaaVMumaaVMugDg
   IXkageIXkaBZuGcaEKZockaqgkpaGLqaSNbacaSMzacaSMhaccSMdacaSMfacaSLracaSHlacaEAIuaqDgaIXjgeaIXj
   OiaEANwaiaLHkaBiaEARwaIuLmaamaEnagaaWNteHiaacoqacoapckqagkapgoqacoapcoqacoapckqagkapiaqaeaqae
   aqaeaqaeaapeaapeaapeaapcoqacoapccFsacgGqaccHsaccJwaccIqaccJsagoqacoapcoqacoapcoqacoapccqaeasa
   kcapccaFrcaareaVIfakasakgaGpcaaricqaocapccaHrkcqaiaoagcapccaIpcaanoasakcaJvccaJrcaarWyaaWGfia
   aYUvcaaYLnoaaCeCeaCdaBkBeaBgcBeBfaiaaccabaCKyByaCacByBzaFJqDqaDscDqDracaaccabacaaBFUjcaaLHjca
   aBFTdcaBFYjacaBFYdackaacaaBFXfcaaBFUvcaaBFXlcaaBFXjeaaccabaeaaccabaqcaBFZxcHqaaqgaaiaaccabaBa
   CwVMtaeaVMtamaVMtaDNSgDmaaBmCcaaKkBaaagEsaaugaacaaEANvcsaaiaaccabacaaEVChggaacaDsaeBmaacaa
   EVElcaaEVFhcaaEVEzcaaEVEfcaaEVEleaaEVApcaaEVClcaaEVAvcaaCTkcBeaacaaDrcaaEVEjcaaEARvcgaamaacca
   bakgaaCeaaccabaCOgaCTjaCgGcEKZnaCLEaByaCmoByClaDNoDaaDccDaDbaHmCsaDckCsDbaJauaDaeBcaDaemaDaec
   aDaeuCzaeBcCzaemCzaecCzaFDgDwaEyBcDwExaIWaCkaCmcCkClaCMRiCkaCmcCkClaDOUkCoaCqcCoCpa").map signed

end StaticWrap.Text
