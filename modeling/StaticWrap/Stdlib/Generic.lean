import StaticWrap.Load.Std
/-!
**The catalogue of `slices`, `maps`, `unique`, `internal/bytealg`, `sort` and `container/list`.**

Generic operations on slices and maps, canonical handles of comparable values, the
byte-search primitives of the runtime, sorting and searching of slices and user-defined
collections, and doubly linked lists: the exported types and functions by file.
-/

namespace StaticWrap.Stdlib

open StaticWrap.Load

def slices : StdPackage := { path := "slices", files := [
  { name := "iter.go", imports := ["cmp", "iter"], funcs := [
      .at 14 "All[Slice ~[]E, E any](s Slice) iter.Seq2[int, E]",
      .at 26 "Backward[Slice ~[]E, E any](s Slice) iter.Seq2[int, E]",
      .at 38 "Values[Slice ~[]E, E any](s Slice) iter.Seq[E]",
      .at 50 "AppendSeq[Slice ~[]E, E any](s Slice, seq iter.Seq[E]) Slice",
      .at 59 "Collect[E any](seq iter.Seq[E]) []E",
      .at 65 "Sorted[E cmp.Ordered](seq iter.Seq[E]) []E",
      .at 73 "SortedFunc[E any](seq iter.Seq[E], cmp func(E, E) int) []E",
      .at 83 "SortedStableFunc[E any](seq iter.Seq[E], cmp func(E, E) int) []E",
      .at 94 "Chunk[Slice ~[]E, E any](s Slice, n int) iter.Seq[Slice]"] },
  { name := "slices.go", imports := ["cmp"], funcs := [
      .at 20 "Equal[S ~[]E, E comparable](s1, s2 S) bool",
      .at 36 "EqualFunc[S1 ~[]E1, S2 ~[]E2, E1, E2 any](s1 S1, s2 S2, eq func(E1, E2) bool) bool",
      .at 55 "Compare[S ~[]E, E cmp.Ordered](s1, s2 S) int",
      .at 75 "CompareFunc[S1 ~[]E1, S2 ~[]E2, E1, E2 any](s1 S1, s2 S2, cmp func(E1, E2) int) int",
      .at 95 "Index[S ~[]E, E comparable](s S, v E) int",
      .at 106 "IndexFunc[S ~[]E, E any](s S, f func(E) bool) int",
      .at 116 "Contains[S ~[]E, E comparable](s S, v E) bool",
      .at 122 "ContainsFunc[S ~[]E, E any](s S, f func(E) bool) bool",
      .at 135 "Insert[S ~[]E, E any](s S, i int, v ...E) S",
      .at 220 "Delete[S ~[]E, E any](s S, i, j int) S",
      .at 236 "DeleteFunc[S ~[]E, E any](s S, del func(E) bool) S",
      .at 258 "Replace[S ~[]E, E any](s S, i, j int, v ...E) S",
      .at 350 "Clone[S ~[]E, E any](s S) S",
      .at 364 "Compact[S ~[]E, E comparable](s S) S",
      .at 387 "CompactFunc[S ~[]E, E any](s S, eq func(E, E) bool) S",
      .at 410 "Grow[S ~[]E, E any](s S, n int) S",
      .at 422 "Clip[S ~[]E, E any](s S) S",
      .at 473 "Reverse[S ~[]E, E any](s S)",
      .at 481 "Concat[S ~[]E, E any](slices ...S) S",
      .at 503 "Repeat[S ~[]E, E any](x S, count int) S"] },
  { name := "sort.go", imports := ["cmp"], funcs := [
      .at 16 "Sort[S ~[]E, E cmp.Ordered](x S)",
      .at 27 "SortFunc[S ~[]E, E any](x S, cmp func(a, b E) int)",
      .at 37 "SortStableFunc[S ~[]E, E any](x S, cmp func(a, b E) int)",
      .at 42 "IsSorted[S ~[]E, E cmp.Ordered](x S) bool",
      .at 53 "IsSortedFunc[S ~[]E, E any](x S, cmp func(a, b E) int) bool",
      .at 66 "Min[S ~[]E, E cmp.Ordered](x S) E",
      .at 81 "MinFunc[S ~[]E, E any](x S, cmp func(a, b E) int) E",
      .at 97 "Max[S ~[]E, E cmp.Ordered](x S) E",
      .at 112 "MaxFunc[S ~[]E, E any](x S, cmp func(a, b E) int) E",
      .at 129 "BinarySearch[S ~[]E, E cmp.Ordered](x S, target E) (int, bool)",
      .at 152 "BinarySearchFunc[S ~[]E, E, T any](x S, target T, cmp func(E, T) int) (int, bool)"] }] }

def maps : StdPackage := { path := "maps", files := [
  { name := "iter.go", imports := ["iter"], funcs := [
      .at 10 "All[Map ~map[K]V, K comparable, V any](m Map) iter.Seq2[K, V]",
      .at 21 "Keys[Map ~map[K]V, K comparable, V any](m Map) iter.Seq[K]",
      .at 32 "Values[Map ~map[K]V, K comparable, V any](m Map) iter.Seq[V]",
      .at 43 "Insert[Map ~map[K]V, K comparable, V any](m Map, seq iter.Seq2[K, V])",
      .at 51 "Collect[K comparable, V any](seq iter.Seq2[K, V]) map[K]V"] },
  { name := "maps.go", funcs := [
      .at 12 "Equal[M1, M2 ~map[K]V, K, V comparable](m1 M1, m2 M2) bool",
      .at 27 "EqualFunc[M1 ~map[K]V1, M2 ~map[K]V2, K comparable, V1, V2 any](m1 M1, m2 M2, eq func(V1, V2) bool) bool",
      .at 41 "Clone[M ~map[K]V, K comparable, V any](m M) M",
      .at 56 "Copy[M1 ~map[K]V, M2 ~map[K]V, K comparable, V any](dst M1, src M2)",
      .at 63 "DeleteFunc[M ~map[K]V, K comparable, V any](m M, del func(K, V) bool)"] }] }

def unique : StdPackage := { path := "unique", complete := true, files := [
  { name := "handle.go",
    types := [
      { line := 21, name := "Handle", params := "[T comparable]", body := structType ["value *T"] }],
    funcs := [
      .at 32 "Make[T comparable](value T) Handle[T]"],
    extra := [
      "func (h Handle[T]) Value() T"] }] }

/-- The package `internal/bytealg`. -/
def bytealg : StdPackage := { path := "internal/bytealg", files := [
  { name := "bytealg.go", funcs := [
      .at 36 "HashStr[T string | []byte](sep T) (uint32, uint32)",
      .at 48 "HashStrRev[T string | []byte](sep T) (uint32, uint32)",
      .at 61 "IndexRabinKarp[T string | []byte](s, sep T) int",
      .at 87 "LastIndexRabinKarp[T string | []byte](s, sep T) int",
      .at 121 "MakeNoZero(n int) []byte"] },
  { name := "compare_native.go", funcs := [
      .at 12 "Compare(a, b []byte) int",
      .at 14 "CompareString(a, b string) int"] },
  { name := "count_native.go", funcs := [
      .at 10 "Count(b []byte, c byte) int",
      .at 13 "CountString(s string, c byte) int"] },
  { name := "equal_generic.go", funcs := [
      .at 14 "Equal(a, b []byte) bool"] },
  { name := "index_amd64.go", funcs := [
      .at 23 "Cutover(n int) int"] },
  { name := "index_native.go", funcs := [
      .at 13 "Index(a, b []byte) int",
      .at 19 "IndexString(a, b string) int"] },
  { name := "indexbyte_native.go", funcs := [
      .at 10 "IndexByte(b []byte, c byte) int",
      .at 13 "IndexByteString(s string, c byte) int"] },
  { name := "lastindexbyte_generic.go", funcs := [
      .at 7 "LastIndexByte(s []byte, c byte) int",
      .at 16 "LastIndexByteString(s string, c byte) int"] }] }

def sort : StdPackage := { path := "sort", files := [
  { name := "search.go", funcs := [
      .at 58 "Search(n int, f func(int) bool) int",
      .at 99 "Find(n int, cmp func(int) int) (i int, found bool)",
      .at 123 "SearchInts(a []int, x int) int",
      .at 131 "SearchFloat64s(a []float64, x float64) int",
      .at 139 "SearchStrings(a []string, x string) int"] },
  { name := "slice.go", funcs := [
      .at 24 "Slice(x any, less func(i, j int) bool)",
      .at 41 "SliceStable(x any, less func(i, j int) bool)",
      .at 52 "SliceIsSorted(x any, less func(i, j int) bool) bool"] },
  { name := "sort.go", types := [.at 14 "Interface", .at 138 "IntSlice",
      .at 155 "Float64Slice", .at 179 "StringSlice"], funcs := [
      .at 48 "Sort(data Interface)",
      .at 107 "Reverse(data Interface) Interface",
      .at 113 "IsSorted(data Interface) bool",
      .at 194 "Ints(x []int)",
      .at 200 "Float64s(x []float64)",
      .at 206 "Strings(x []string)",
      .at 212 "IntsAreSorted(x []int) bool",
      .at 218 "Float64sAreSorted(x []float64) bool",
      .at 224 "StringsAreSorted(x []string) bool",
      .at 291 "Stable(data Interface)"] }] }

def containerList : StdPackage := { path := "container/list", files := [
  { name := "list.go", types := [.at 15 "Element", .at 48 "List"], funcs := [
      .at 62 "New() *List"] }] }

end StaticWrap.Stdlib
