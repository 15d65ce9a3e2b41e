import StaticWrap.Load.Std
/-!
**The catalogue of `net/url` and `html`.**

The parsing, escaping and resolution of URLs with their query values, and the escaping of
HTML text: every exported function at the line of its declaration, the types with their
fields and methods. Both packages are complete.
-/

namespace StaticWrap.Stdlib

open StaticWrap.Load

def netUrl : StdPackage := { path := "net/url", complete := true, files := [
  { name := "url.go",
    types := [
      .defined 26 "Error" (structType ["Op string", "URL string", "Err error"]),
      .defined 160 "EscapeError" "string",
      .defined 170 "InvalidHostError" "string",
      .defined 358 "URL" (structType ["Scheme string", "Opaque string", "User *Userinfo",
        "Host string", "Path string", "RawPath string", "OmitHost bool", "ForceQuery bool",
        "RawQuery string", "Fragment string", "RawFragment string"]),
      .defined 410 "Userinfo" (structType ["username string", "password string",
        "passwordSet bool"]),
      .defined 940 "Values" "map[string][]string"],
    funcs := [
      .at 188 "QueryUnescape(s string) (string, error)",
      .at 199 "PathUnescape(s string) (string, error)",
      .at 280 "QueryEscape(s string) string",
      .at 286 "PathEscape(s string) string",
      .at 390 "User(username string) *Userinfo",
      .at 402 "UserPassword(username, password string) *Userinfo",
      .at 478 "Parse(rawURL string) (*URL, error)",
      .at 499 "ParseRequestURI(rawURL string) (*URL, error)",
      .at 967 "ParseQuery(query string) (Values, error)",
      .at 1316 "JoinPath(base string, elem ...string) (result string, err error)"],
    extra := [
      "func (e *Error) Unwrap() error",
      "func (e *Error) Error() string",
      "func (e *Error) Timeout() bool",
      "func (e *Error) Temporary() bool",
      "func (e EscapeError) Error() string",
      "func (e InvalidHostError) Error() string",
      "func (u *Userinfo) Username() string",
      "func (u *Userinfo) Password() (string, bool)",
      "func (u *Userinfo) String() string",
      "func (u *URL) EscapedPath() string",
      "func (u *URL) EscapedFragment() string",
      "func (u *URL) String() string",
      "func (u *URL) Redacted() string",
      "func (u *URL) IsAbs() bool",
      "func (u *URL) Parse(ref string) (*URL, error)",
      "func (u *URL) ResolveReference(ref *URL) *URL",
      "func (u *URL) Query() Values",
      "func (u *URL) RequestURI() string",
      "func (u *URL) Hostname() string",
      "func (u *URL) Port() string",
      "func (u *URL) MarshalBinary() (text []byte, err error)",
      "func (u *URL) AppendBinary(b []byte) ([]byte, error)",
      "func (u *URL) UnmarshalBinary(text []byte) error",
      "func (u *URL) JoinPath(elem ...string) *URL",
      "func (v Values) Get(key string) string",
      "func (v Values) Set(key, value string)",
      "func (v Values) Add(key, value string)",
      "func (v Values) Del(key string)",
      "func (v Values) Has(key string) bool",
      "func (v Values) Encode() string"] }] }

def html : StdPackage := { path := "html", complete := true, files := [
  { name := "escape.go", funcs := [
      .at 178 "EscapeString(s string) string",
      .at 187 "UnescapeString(s string) string"] }] }

end StaticWrap.Stdlib
