import DocScribe.Files.Path
import DocScribe.Fault
import DocScribe.Text.Case

/-! The kind of a file by the extension of its name. -/

namespace DocScribe.Files.MimeType
open DocScribe

/-- Extensions that stand for two. -/
def doubled : List (String × String) :=
  [(".svgz", ".svg.gz"), (".tgz", ".tar.gz"), (".taz", ".tar.gz"), (".tz", ".tar.gz"),
    (".tbz2", ".tar.bz2"), (".txz", ".tar.xz")]

/-- Extensions of packed files; their case counts. -/
def packings : List String := [".gz", ".Z", ".bz2", ".xz", ".br"]

def types : List (String × List String) := [
  ("application/javascript", [".js", ".mjs"]),
  ("application/json", [".json"]),
  ("application/manifest+json", [".webmanifest"]),
  ("application/msword", [".doc", ".dot", ".wiz"]),
  ("application/n-quads", [".nq"]),
  ("application/n-triples", [".nt"]),
  ("application/octet-stream", [".bin", ".a", ".dll", ".exe", ".o", ".obj", ".so"]),
  ("application/oda", [".oda"]),
  ("application/pdf", [".pdf"]),
  ("application/pkcs7-mime", [".p7c"]),
  ("application/postscript", [".ps", ".ai", ".eps"]),
  ("application/trig", [".trig"]),
  ("application/vnd.apple.mpegurl", [".m3u", ".m3u8"]),
  ("application/vnd.ms-excel", [".xls", ".xlb"]),
  ("application/vnd.ms-powerpoint", [".ppt", ".pot", ".ppa", ".pps", ".pwz"]),
  ("application/wasm", [".wasm"]),
  ("application/x-bcpio", [".bcpio"]),
  ("application/x-cpio", [".cpio"]),
  ("application/x-csh", [".csh"]),
  ("application/x-dvi", [".dvi"]),
  ("application/x-gtar", [".gtar"]),
  ("application/x-hdf", [".hdf"]),
  ("application/x-hdf5", [".h5"]),
  ("application/x-latex", [".latex"]),
  ("application/x-mif", [".mif"]),
  ("application/x-netcdf", [".cdf", ".nc"]),
  ("application/x-pkcs12", [".p12", ".pfx"]),
  ("application/x-pn-realaudio", [".ram"]),
  ("application/x-python-code", [".pyc", ".pyo"]),
  ("application/x-sh", [".sh"]),
  ("application/x-shar", [".shar"]),
  ("application/x-shockwave-flash", [".swf"]),
  ("application/x-sv4cpio", [".sv4cpio"]),
  ("application/x-sv4crc", [".sv4crc"]),
  ("application/x-tar", [".tar"]),
  ("application/x-tcl", [".tcl"]),
  ("application/x-tex", [".tex"]),
  ("application/x-texinfo", [".texi", ".texinfo"]),
  ("application/x-troff", [".roff", ".t", ".tr"]),
  ("application/x-troff-man", [".man"]),
  ("application/x-troff-me", [".me"]),
  ("application/x-troff-ms", [".ms"]),
  ("application/x-ustar", [".ustar"]),
  ("application/x-wais-source", [".src"]),
  ("application/xml", [".xsl", ".rdf", ".wsdl", ".xpdl"]),
  ("application/zip", [".zip"]),
  ("audio/3gpp", [".3gp", ".3gpp"]),
  ("audio/3gpp2", [".3g2", ".3gpp2"]),
  ("audio/aac", [".aac", ".adts", ".loas", ".ass"]),
  ("audio/basic", [".au", ".snd"]),
  ("audio/mpeg", [".mp3", ".mp2"]),
  ("audio/opus", [".opus"]),
  ("audio/x-aiff", [".aif", ".aifc", ".aiff"]),
  ("audio/x-pn-realaudio", [".ra"]),
  ("audio/x-wav", [".wav"]),
  ("image/avif", [".avif"]),
  ("image/bmp", [".bmp"]),
  ("image/gif", [".gif"]),
  ("image/ief", [".ief"]),
  ("image/jpeg", [".jpg", ".jpe", ".jpeg"]),
  ("image/heic", [".heic"]),
  ("image/heif", [".heif"]),
  ("image/png", [".png"]),
  ("image/svg+xml", [".svg"]),
  ("image/tiff", [".tiff", ".tif"]),
  ("image/vnd.microsoft.icon", [".ico"]),
  ("image/x-cmu-raster", [".ras"]),
  ("image/x-portable-anymap", [".pnm"]),
  ("image/x-portable-bitmap", [".pbm"]),
  ("image/x-portable-graymap", [".pgm"]),
  ("image/x-portable-pixmap", [".ppm"]),
  ("image/x-rgb", [".rgb"]),
  ("image/x-xbitmap", [".xbm"]),
  ("image/x-xpixmap", [".xpm"]),
  ("image/x-xwindowdump", [".xwd"]),
  ("message/rfc822", [".eml", ".mht", ".mhtml", ".nws"]),
  ("text/css", [".css"]),
  ("text/csv", [".csv"]),
  ("text/html", [".html", ".htm"]),
  ("text/n3", [".n3"]),
  ("text/plain", [".txt", ".bat", ".c", ".h", ".ksh", ".pl", ".srt"]),
  ("text/richtext", [".rtx"]),
  ("text/tab-separated-values", [".tsv"]),
  ("text/vtt", [".vtt"]),
  ("text/x-python", [".py"]),
  ("text/x-setext", [".etx"]),
  ("text/x-sgml", [".sgm", ".sgml"]),
  ("text/x-vcard", [".vcf"]),
  ("text/xml", [".xml"]),
  ("video/mp4", [".mp4"]),
  ("video/mpeg", [".mpeg", ".m1v", ".mpa", ".mpe", ".mpg"]),
  ("video/quicktime", [".mov", ".qt"]),
  ("video/webm", [".webm"]),
  ("video/x-msvideo", [".avi"]),
  ("video/x-sgi-movie", [".movie"])]

/-- A name and its extension, which starts at the last dot of the last part. -/
def split (name : List Char) : List Char × List Char :=
  let folderSize := (Text.lastIndexOf '/' name).elim 0 (· + 1)
  let last := name.drop folderSize
  -- dots at the start of the last part start no extension
  let dots := last.takeWhile (· == '.')
  match Text.lastIndexOf '.' (last.drop dots.length) with
  | some place =>
    let size := folderSize + dots.length + place
    (name.take size, name.drop size)
  | none => (name, [])

/-- Takes the extension off, after writing out one that stands for two. -/
def splitWritten (name : List Char) : List Char × List Char :=
  let (base, extension) := split name
  match doubled.lookup (Text.lower (.ofList extension)) with
  | some written => split (base ++ written.toList)
  | none => (base, extension)

def ofExtension? (extension : String) : Option String :=
  (types.find? fun entry => entry.2.contains extension).map Prod.fst

/-- The type of a file name. The extension of a packing is taken off first. -/
def ofName? (name : List Char) : Option String :=
  let (base, extension) := splitWritten name
  let inner := if packings.contains (.ofList extension) then (split base).2 else extension
  ofExtension? (Text.lower (.ofList inner))

/-- A scheme of two or more characters before a colon, and what follows it. -/
def scheme? (text : List Char) : Option (List Char × List Char) :=
  let isSchemeChar (c : Char) : Bool := c.isAlphanum || c == '+' || c == '-' || c == '.'
  let scheme := text.takeWhile isSchemeChar
  match text.drop scheme.length with
  | ':' :: rest =>
    if 2 ≤ scheme.length && (scheme.head?.any Char.isAlpha) then
      some (scheme.map Char.toLower, rest)
    else none
  | _ => none

/-- The type that data in a text says it has. -/
def ofData? (text : List Char) : Option String :=
  if !text.contains ',' then none
  else
    let kind := text.takeWhile fun c => c != ',' && c != ';'
    some (if kind.contains '=' || !kind.contains '/' then "text/plain" else .ofList kind)

/-- The schemes whose last part may have parameters behind a semicolon. -/
def parameterSchemes : List String :=
  ["ftp", "hdl", "prospero", "http", "https", "shttp", "rtsp", "rtspu", "sip", "sips", "mms", "sftp",
    "tel"]

/-- An address without the parameters of its last part. -/
def withoutParameters (address : List Char) : List Char :=
  let folderSize := (Text.lastIndexOf '/' address).elim 0 (· + 1)
  address.take folderSize ++ (address.drop folderSize).takeWhile (· != ';')

/-- The type of a path. One that reads as an address with a scheme ends at the query. -/
def ofPath? (path : Path) : Option String :=
  let text := path.toText.toList
  match scheme? text with
  | none => ofName? text
  | some (scheme, rest) =>
    let address := rest.takeWhile fun c => c != '?' && c != '#'
    if scheme == "data".toList then ofData? address
    else if parameterSchemes.contains (.ofList scheme) then ofName? (withoutParameters address)
    else ofName? address

/-- The type of a picture; a file of another type is refused. -/
def ofImage (path : Path) : Outcome String :=
  match ofPath? path with
  | some found =>
    if found.startsWith "image/" then pure found
    else throw (.validation s!"Unsupported image type for {path.name}: {found}")
  | none => throw (.validation s!"Unsupported image type for {path.name}: unknown")

end DocScribe.Files.MimeType
