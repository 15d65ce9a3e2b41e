import StaticWrap.Load.Std
/-!
**The catalogue of `time` and `context`.**

Instants, durations, timers and locations: the exported types with their methods, constants
and functions by file; the package is complete. Deadlines, cancellation and request-scoped
values: the exported types and functions of `context`'s one file.
-/

namespace StaticWrap.Stdlib

open StaticWrap.Load

def timeLayouts : List String := [
  "const Layout = \"01/02 03:04:05PM '06 -0700\"",
  "const ANSIC = \"Mon Jan _2 15:04:05 2006\"",
  "const UnixDate = \"Mon Jan _2 15:04:05 MST 2006\"",
  "const RubyDate = \"Mon Jan 02 15:04:05 -0700 2006\"",
  "const RFC822 = \"02 Jan 06 15:04 MST\"",
  "const RFC822Z = \"02 Jan 06 15:04 -0700\"",
  "const RFC850 = \"Monday, 02-Jan-06 15:04:05 MST\"",
  "const RFC1123 = \"Mon, 02 Jan 2006 15:04:05 MST\"",
  "const RFC1123Z = \"Mon, 02 Jan 2006 15:04:05 -0700\"",
  "const RFC3339 = \"2006-01-02T15:04:05Z07:00\"",
  "const RFC3339Nano = \"2006-01-02T15:04:05.999999999Z07:00\"",
  "const Kitchen = \"3:04PM\"",
  "const Stamp = \"Jan _2 15:04:05\"",
  "const StampMilli = \"Jan _2 15:04:05.000\"",
  "const StampMicro = \"Jan _2 15:04:05.000000\"",
  "const StampNano = \"Jan _2 15:04:05.000000000\"",
  "const DateTime = \"2006-01-02 15:04:05\"",
  "const DateOnly = \"2006-01-02\"",
  "const TimeOnly = \"15:04:05\""]

/-- The constants of `time.go`: months, weekdays and the units of durations. -/
def timeConstants : List String :=
  ["const January Month = 1", "const February Month = 2", "const March Month = 3",
   "const April Month = 4", "const May Month = 5", "const June Month = 6",
   "const July Month = 7", "const August Month = 8", "const September Month = 9",
   "const October Month = 10", "const November Month = 11", "const December Month = 12",
   "const Sunday Weekday = 0", "const Monday Weekday = 1", "const Tuesday Weekday = 2",
   "const Wednesday Weekday = 3", "const Thursday Weekday = 4", "const Friday Weekday = 5",
   "const Saturday Weekday = 6",
   "const Nanosecond Duration = 1", "const Microsecond = 1000 * Nanosecond",
   "const Millisecond = 1000 * Microsecond", "const Second = 1000 * Millisecond",
   "const Minute = 60 * Second", "const Hour = 60 * Minute"]

/-- The methods of instants. -/
def timeMethods : List String := [
  "func (t Time) After(u Time) bool",
  "func (t Time) Before(u Time) bool",
  "func (t Time) Compare(u Time) int",
  "func (t Time) Equal(u Time) bool",
  "func (t Time) IsZero() bool",
  "func (t Time) Date() (year int, month Month, day int)",
  "func (t Time) Year() int",
  "func (t Time) Month() Month",
  "func (t Time) Day() int",
  "func (t Time) Weekday() Weekday",
  "func (t Time) ISOWeek() (year, week int)",
  "func (t Time) Clock() (hour, min, sec int)",
  "func (t Time) Hour() int",
  "func (t Time) Minute() int",
  "func (t Time) Second() int",
  "func (t Time) Nanosecond() int",
  "func (t Time) YearDay() int",
  "func (t Time) Add(d Duration) Time",
  "func (t Time) Sub(u Time) Duration",
  "func (t Time) AddDate(years int, months int, days int) Time",
  "func (t Time) UTC() Time",
  "func (t Time) Local() Time",
  "func (t Time) In(loc *Location) Time",
  "func (t Time) Location() *Location",
  "func (t Time) Zone() (name string, offset int)",
  "func (t Time) ZoneBounds() (start, end Time)",
  "func (t Time) Unix() int64",
  "func (t Time) UnixMilli() int64",
  "func (t Time) UnixMicro() int64",
  "func (t Time) UnixNano() int64",
  "func (t Time) AppendBinary(b []byte) ([]byte, error)",
  "func (t Time) MarshalBinary() ([]byte, error)",
  "func (t Time) GobEncode() ([]byte, error)",
  "func (t Time) MarshalJSON() ([]byte, error)",
  "func (t Time) AppendText(b []byte) ([]byte, error)",
  "func (t Time) MarshalText() ([]byte, error)",
  "func (t Time) IsDST() bool",
  "func (t Time) Truncate(d Duration) Time",
  "func (t Time) Round(d Duration) Time",
  "func (t *Time) UnmarshalBinary(data []byte) error",
  "func (t *Time) GobDecode(data []byte) error",
  "func (t *Time) UnmarshalJSON(data []byte) error",
  "func (t *Time) UnmarshalText(data []byte) error"]

def durationMethods : List String := [
  "func (d Duration) String() string",
  "func (d Duration) Nanoseconds() int64",
  "func (d Duration) Microseconds() int64",
  "func (d Duration) Milliseconds() int64",
  "func (d Duration) Seconds() float64",
  "func (d Duration) Minutes() float64",
  "func (d Duration) Hours() float64",
  "func (d Duration) Truncate(m Duration) Duration",
  "func (d Duration) Round(m Duration) Duration",
  "func (d Duration) Abs() Duration"]

def time : StdPackage := { path := "time", complete := true, files := [
  { name := "format.go",
    types := [.defined 1096 "ParseError" (structType ["Layout string", "Value string",
      "LayoutElem string", "ValueElem string", "Message string"])],
    funcs := [
      .at 1020 "Parse(layout, value string) (Time, error)",
      .at 1034 "ParseInLocation(layout, value string, loc *Location) (Time, error)",
      .at 1621 "ParseDuration(s string) (Duration, error)"],
    extra := timeLayouts ++ [
      "func (t Time) String() string",
      "func (t Time) GoString() string",
      "func (t Time) Format(layout string) string",
      "func (t Time) AppendFormat(b []byte, layout string) []byte",
      "func (e *ParseError) Error() string"] },
  { name := "sleep.go",
    types := [.defined 55 "Timer" (structType ["C <-chan Time", "initTimer bool"])],
    funcs := [
      .at 12 "Sleep(d Duration)",
      .at 90 "NewTimer(d Duration) *Timer",
      .at 160 "After(d Duration) <-chan Time",
      .at 170 "AfterFunc(d Duration, f func()) *Timer"],
    extra := [
      "func (t *Timer) Stop() bool",
      "func (t *Timer) Reset(d Duration) bool"] },
  { name := "tick.go",
    types := [.defined 14 "Ticker" (structType ["C <-chan Time", "initTicker bool"])],
    funcs := [
      .at 33 "NewTicker(d Duration) *Ticker",
      .at 84 "Tick(d Duration) <-chan Time"],
    extra := [
      "func (t *Ticker) Stop()",
      "func (t *Ticker) Reset(d Duration)"] },
  { name := "time.go",
    types := [
      .defined 136 "Time" (structType ["wall uint64", "ext int64", "loc *Location"]),
      .defined 303 "Month" "int",
      .defined 333 "Weekday" "int",
      .defined 620 "Duration" "int64"],
    funcs := [
      .at 1223 "Since(t Time) Duration",
      .at 1233 "Until(t Time) Duration",
      .at 1343 "Now() Time",
      .at 1436 "Unix(sec int64, nsec int64) Time",
      .at 1455 "UnixMilli(msec int64) Time",
      .at 1462 "UnixMicro(usec int64) Time",
      .at 1516 "Date(year int, month Month, day, hour, min, sec, nsec int, loc *Location) Time"],
    extra := timeConstants ++ timeMethods ++ durationMethods ++ [
      "func (m Month) String() string",
      "func (d Weekday) String() string"] },
  { name := "zoneinfo.go",
    types := [.defined 20 "Location" (structType ["name string", "cacheStart int64",
      "cacheEnd int64"])],
    funcs := [
      .at 103 "FixedZone(name string, offset int) *Location",
      .at 672 "LoadLocation(name string) (*Location, error)"],
    extra := [
      "var UTC *Location = &utcLoc",
      "var utcLoc = Location" ++ braced ["name: \"UTC\""],
      "var Local *Location = &localLoc",
      "var localLoc Location",
      "func (l *Location) String() string"] },
  { name := "zoneinfo_read.go", funcs := [
      .at 102 "LoadLocationFromTZData(name string, data []byte) (*Location, error)"] }] }

def context : StdPackage := { path := "context", files := [
  { name := "context.go", imports := ["time"],
    types := [.at 68 "Context", .at 226 "CancelFunc", .at 233 "CancelCauseFunc"],
    funcs := [
      .at 211 "Background() Context",
      .at 219 "TODO() Context",
      .at 240 "WithCancel(parent Context) (ctx Context, cancel CancelFunc)",
      .at 268 "WithCancelCause(parent Context) (ctx Context, cancel CancelCauseFunc)",
      .at 286 "Cause(c Context) error",
      .at 327 "AfterFunc(ctx Context, f func()) (stop func() bool)",
      .at 583 "WithoutCancel(parent Context) Context",
      .at 623 "WithDeadline(parent Context, d time.Time) (Context, CancelFunc)",
      .at 630 "WithDeadlineCause(parent Context, d time.Time, cause error) (Context, CancelFunc)",
      .at 701 "WithTimeout(parent Context, timeout time.Duration) (Context, CancelFunc)",
      .at 708 "WithTimeoutCause(parent Context, timeout time.Duration, cause error) (Context, CancelFunc)",
      .at 725 "WithValue(parent Context, key, val any) Context"] }] }

end StaticWrap.Stdlib
