import StaticWrap.Stdlib.Strconv
import StaticWrap.Stdlib.Strings
import StaticWrap.Stdlib.Bytes
import StaticWrap.Stdlib.Time
import StaticWrap.Stdlib.Unicode
import StaticWrap.Stdlib.Generic
import StaticWrap.Stdlib.Math
import StaticWrap.Stdlib.Buffered
import StaticWrap.Stdlib.Regexp
import StaticWrap.Stdlib.Printing
import StaticWrap.Stdlib.Streams
import StaticWrap.Stdlib.Files
import StaticWrap.Stdlib.Web
import StaticWrap.Stdlib.Hashing
/-!
**The catalogued packages of the standard library.**

`catalogue` lists every package whose declarations are known; `catalogued? path` finds one.
-/

namespace StaticWrap.Stdlib

open StaticWrap.Load

/-- The packages whose declarations are known. -/
def catalogue : List StdPackage :=
  [strconv, strings, bytes, time, context, sort, containerList, errors, utf8, slices, maps,
   bytealg, math, cmp, bufio, ioutil, log, regexp, containerRing, fmt, io, os, ioFs,
   pathFilepath, path, mathBits, mathRand, netUrl, html, hash, hashCrc32, utf16, unique]

/-- The catalogued package of an import path. -/
def catalogued? (path : String) : Option StdPackage := catalogue.find? (·.path == path)

end StaticWrap.Stdlib
