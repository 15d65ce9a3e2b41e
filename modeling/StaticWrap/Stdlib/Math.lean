import StaticWrap.Load.Std
/-!
**The catalogue of `math`, `cmp`, `math/bits` and `math/rand`.**

Floating-point functions and constants, the generic comparison of ordered values, bit
counting and manipulation of unsigned integers, and pseudo-random numbers: the exported types
and functions by file. Most functions of `math` are at the line of their declaration; the
others follow in a file of their own. `math`, `math/bits` and `math/rand` are complete.
-/

namespace StaticWrap.Stdlib

open StaticWrap.Load

/-- Functions of `math` whose line is not known. -/
def mathUnplaced : List String := [
  "func Acos(x float64) float64",
  "func Acosh(x float64) float64",
  "func Asin(x float64) float64",
  "func Asinh(x float64) float64",
  "func Atan(x float64) float64",
  "func Atan2(y, x float64) float64",
  "func Atanh(x float64) float64",
  "func Cbrt(x float64) float64",
  "func Cos(x float64) float64",
  "func Cosh(x float64) float64",
  "func Erf(x float64) float64",
  "func Erfc(x float64) float64",
  "func Erfinv(x float64) float64",
  "func Erfcinv(x float64) float64",
  "func Exp(x float64) float64",
  "func Exp2(x float64) float64",
  "func Expm1(x float64) float64",
  "func FMA(x, y, z float64) float64",
  "func Frexp(f float64) (frac float64, exp int)",
  "func Gamma(x float64) float64",
  "func Hypot(p, q float64) float64",
  "func J0(x float64) float64",
  "func J1(x float64) float64",
  "func Jn(n int, x float64) float64",
  "func Ldexp(frac float64, exp int) float64",
  "func Lgamma(x float64) (lgamma float64, sign int)",
  "func Nextafter32(x, y float32) (r float32)",
  "func Nextafter(x, y float64) (r float64)",
  "func Remainder(x, y float64) float64",
  "func Sin(x float64) float64",
  "func Sincos(x float64) (sin, cos float64)",
  "func Sinh(x float64) float64",
  "func Tan(x float64) float64",
  "func Tanh(x float64) float64",
  "func Y0(x float64) float64",
  "func Y1(x float64) float64",
  "func Yn(n int, x float64) float64"]

def mathConstants : List String := [
  "const E = 2.71828182845904523536028747135266249775724709369995957496696763",
  "const Pi = 3.14159265358979323846264338327950288419716939937510582097494459",
  "const Phi = 1.61803398874989484820458683436563811772030917980576286213544862",
  "const Sqrt2 = 1.41421356237309504880168872420969807856967187537694807317667974",
  "const SqrtE = 1.64872127070012814684865078831848183925514442968024587008498939",
  "const SqrtPi = 1.77245385090551602729816748334114518279754945612238712821380779",
  "const SqrtPhi = 1.27201964951406896425242246173749149171560804184009624861664038",
  "const Ln2 = 0.693147180559945309417232121458176568075500134360255254120680009",
  "const Log2E = 1 / Ln2",
  "const Ln10 = 2.30258509299404568401799145468436420760110148862877297603332790",
  "const Log10E = 1 / Ln10",
  "const MaxFloat32 = 0x1p127 * (1 + (1 - 0x1p-23))",
  "const SmallestNonzeroFloat32 = 0x1p-126 * 0x1p-23",
  "const MaxFloat64 = 0x1p1023 * (1 + (1 - 0x1p-52))",
  "const SmallestNonzeroFloat64 = 0x1p-1022 * 0x1p-52",
  "const intSize = 64",
  "const MaxInt = 1<<(intSize-1) - 1",
  "const MinInt = -1 << (intSize - 1)",
  "const MaxInt8 = 1<<7 - 1",
  "const MinInt8 = -1 << 7",
  "const MaxInt16 = 1<<15 - 1",
  "const MinInt16 = -1 << 15",
  "const MaxInt32 = 1<<31 - 1",
  "const MinInt32 = -1 << 31",
  "const MaxInt64 = 1<<63 - 1",
  "const MinInt64 = -1 << 63",
  "const MaxUint = 1<<intSize - 1",
  "const MaxUint8 = 1<<8 - 1",
  "const MaxUint16 = 1<<16 - 1",
  "const MaxUint32 = 1<<32 - 1",
  "const MaxUint64 = 1<<64 - 1"]

def math : StdPackage := { path := "math", complete := true, files := [
  { name := "abs.go", funcs := [
      .at 13 "Abs(x float64) float64"] },
  { name := "bits.go", funcs := [
      .at 20 "Inf(sign int) float64",
      .at 31 "NaN() float64",
      .at 34 "IsNaN(f float64) (is bool)",
      .at 46 "IsInf(f float64, sign int) bool"] },
  { name := "const.go", extra := mathConstants },
  { name := "copysign.go", funcs := [
      .at 9 "Copysign(f, sign float64) float64"] },
  { name := "dim.go", funcs := [
      .at 14 "Dim(x, y float64) float64",
      .at 40 "Max(x, y float64) float64",
      .at 76 "Min(x, y float64) float64"] },
  { name := "floor.go", funcs := [
      .at 14 "Floor(x float64) float64",
      .at 43 "Ceil(x float64) float64",
      .at 61 "Trunc(x float64) float64",
      .at 83 "Round(x float64) float64",
      .at 121 "RoundToEven(x float64) float64"] },
  { name := "log.go", funcs := [
      .at 81 "Log(x float64) float64"] },
  { name := "log10.go", funcs := [
      .at 9 "Log10(x float64) float64",
      .at 22 "Log2(x float64) float64"] },
  { name := "log1p.go", funcs := [
      .at 96 "Log1p(x float64) float64"] },
  { name := "logb.go", funcs := [
      .at 14 "Logb(x float64) float64",
      .at 34 "Ilogb(x float64) int"] },
  { name := "mod.go", funcs := [
      .at 22 "Mod(x, y float64) float64"] },
  { name := "modf.go", funcs := [
      .at 14 "Modf(f float64) (whole float64, frac float64)"] },
  { name := "pow.go", funcs := [
      .at 48 "Pow(x, y float64) float64"] },
  { name := "pow10.go", funcs := [
      .at 31 "Pow10(n int) float64"] },
  { name := "signbit.go", funcs := [
      .at 8 "Signbit(x float64) bool"] },
  { name := "sqrt.go", funcs := [
      .at 93 "Sqrt(x float64) float64"] },
  { name := "unsafe.go", funcs := [
      .at 24 "Float32bits(f float32) uint32",
      .at 30 "Float32frombits(b uint32) float32",
      .at 35 "Float64bits(f float64) uint64",
      .at 41 "Float64frombits(b uint64) float64"] },
  { name := "unplaced.go", extra := mathUnplaced }] }

def cmp : StdPackage := { path := "cmp", files := [
  { name := "cmp.go", types := [.at 18 "Ordered"], funcs := [
      .at 28 "Less[T Ordered](x, y T) bool",
      .at 40 "Compare[T Ordered](x, y T) int",
      .at 69 "Or[T comparable](vals ...T) T"] }] }

def mathBits : StdPackage := { path := "math/bits", complete := true, files := [
  { name := "bits.go", funcs := [
      .at 25 "LeadingZeros(x uint) int",
      .at 28 "LeadingZeros8(x uint8) int",
      .at 31 "LeadingZeros16(x uint16) int",
      .at 34 "LeadingZeros32(x uint32) int",
      .at 37 "LeadingZeros64(x uint64) int",
      .at 59 "TrailingZeros(x uint) int",
      .at 67 "TrailingZeros8(x uint8) int",
      .at 72 "TrailingZeros16(x uint16) int",
      .at 81 "TrailingZeros32(x uint32) int",
      .at 90 "TrailingZeros64(x uint64) int",
      .at 117 "OnesCount(x uint) int",
      .at 125 "OnesCount8(x uint8) int",
      .at 130 "OnesCount16(x uint16) int",
      .at 135 "OnesCount32(x uint32) int",
      .at 140 "OnesCount64(x uint64) int",
      .at 176 "RotateLeft(x uint, k int) uint",
      .at 187 "RotateLeft8(x uint8, k int) uint8",
      .at 197 "RotateLeft16(x uint16, k int) uint16",
      .at 207 "RotateLeft32(x uint32, k int) uint32",
      .at 217 "RotateLeft64(x uint64, k int) uint64",
      .at 226 "Reverse(x uint) uint",
      .at 234 "Reverse8(x uint8) uint8",
      .at 239 "Reverse16(x uint16) uint16",
      .at 244 "Reverse32(x uint32) uint32",
      .at 253 "Reverse64(x uint64) uint64",
      .at 266 "ReverseBytes(x uint) uint",
      .at 276 "ReverseBytes16(x uint16) uint16",
      .at 283 "ReverseBytes32(x uint32) uint32",
      .at 292 "ReverseBytes64(x uint64) uint64",
      .at 302 "Len(x uint) int",
      .at 310 "Len8(x uint8) int",
      .at 315 "Len16(x uint16) int",
      .at 324 "Len32(x uint32) int",
      .at 337 "Len64(x uint64) int",
      .at 360 "Add(x uint, y uint, carry uint) (uint, uint)",
      .at 374 "Add32(x uint32, y uint32, carry uint32) (uint32, uint32)",
      .at 386 "Add64(x uint64, y uint64, carry uint64) (uint64, uint64)",
      .at 402 "Sub(x uint, y uint, borrow uint) (uint, uint)",
      .at 416 "Sub32(x uint32, y uint32, borrow uint32) (uint32, uint32)",
      .at 431 "Sub64(x uint64, y uint64, borrow uint64) (uint64, uint64)",
      .at 445 "Mul(x uint, y uint) (uint, uint)",
      .at 459 "Mul32(x uint32, y uint32) (uint32, uint32)",
      .at 470 "Mul64(x uint64, y uint64) (uint64, uint64)",
      .at 492 "Div(hi uint, lo uint, y uint) (uint, uint)",
      .at 505 "Div32(hi uint32, lo uint32, y uint32) (uint32, uint32)",
      .at 518 "Div64(hi uint64, lo uint64, y uint64) (uint64, uint64)",
      .at 573 "Rem(hi uint, lo uint, y uint) uint",
      .at 583 "Rem32(hi uint32, lo uint32, y uint32) uint32",
      .at 590 "Rem64(hi uint64, lo uint64, y uint64) uint64"],
    extra := [
      "const UintSize = 64"] }] }

/-- The deprecation of the seeding of the global source. -/
def seedDeprecation : List String :=
  ["// Deprecated: As of Go 1.20 there is no reason to call Seed with",
   "// a random value. Programs that call Seed with a known value to get",
   "// a specific sequence of results should use New(NewSource(seed)) to",
   "// obtain a local random generator."]

/-- The deprecation of reading from the global source. -/
def randReadDeprecation : List String :=
  ["// Deprecated: For almost all use cases, [crypto/rand.Read] is more appropriate.",
   "// If a deterministic source is required, use [math/rand/v2.ChaCha8.Read]."]

def mathRand : StdPackage := { path := "math/rand", complete := true, files := [
  { name := "rand.go",
    types := [
      .defined 28 "Source" (ifaceType ["Int63() int64", "Seed(seed int64)"]),
      .defined 40 "Source64" (ifaceType ["Source", "Uint64() uint64"]),
      .defined 70 "Rand" (structType ["src Source", "s64 Source64", "readVal int64",
        "readPos int"])],
    funcs := [
      .at 51 "NewSource(seed int64) Source",
      .at 78 "New(src Source) *Rand",
      { line := 400, decl := "func Seed(seed int64)", deprecated := seedDeprecation },
      .at 434 "Int63() int64",
      .at 438 "Uint32() uint32",
      .at 442 "Uint64() uint64",
      .at 446 "Int31() int32",
      .at 449 "Int() int",
      .at 454 "Int63n(n int64) int64",
      .at 459 "Int31n(n int32) int32",
      .at 464 "Intn(n int) int",
      .at 468 "Float64() float64",
      .at 472 "Float32() float32",
      .at 476 "Perm(n int) []int",
      .at 481 "Shuffle(n int, swap func(i, j int))",
      { line := 489, decl := "func Read(p []byte) (n int, err error)",
        deprecated := randReadDeprecation },
      .at 499 "NormFloat64() float64",
      .at 508 "ExpFloat64() float64"],
    extra := [
      "func (r *Rand) Seed(seed int64)",
      "func (r *Rand) Int63() int64",
      "func (r *Rand) Uint32() uint32",
      "func (r *Rand) Uint64() uint64",
      "func (r *Rand) Int31() int32",
      "func (r *Rand) Int() int",
      "func (r *Rand) Int63n(n int64) int64",
      "func (r *Rand) Int31n(n int32) int32",
      "func (r *Rand) Intn(n int) int",
      "func (r *Rand) Float64() float64",
      "func (r *Rand) Float32() float32",
      "func (r *Rand) Perm(n int) []int",
      "func (r *Rand) Shuffle(n int, swap func(i, j int))",
      "func (r *Rand) Read(p []byte) (n int, err error)",
      "func (r *Rand) NormFloat64() float64",
      "func (r *Rand) ExpFloat64() float64"] },
  { name := "zipf.go",
    types := [.defined 18 "Zipf" (structType ["r *Rand", "imax float64", "v float64",
      "q float64", "s float64", "oneminusQ float64", "oneminusQinv float64", "hxm float64",
      "hx0minusHxm float64"])],
    funcs := [
      .at 39 "NewZipf(r *Rand, s float64, v float64, imax uint64) *Zipf"],
    extra := [
      "func (z *Zipf) Uint64() uint64"] }] }

end StaticWrap.Stdlib
