import BookTheme.Bytes.Utf8

/-! # Heads of replies

The head of a reply: a status line, header lines, and an empty line. A line ends with a line feed, which
may have a carriage return in front; empty lines in front of the head are passed over. The status line has
a version, a status of three digits, and perhaps a reason. A header line has a name, a colon directly
behind it, and a value, of which the blanks at its ends are no part.

A head is read byte by byte, and the first byte that cannot stand where it does is what is wrong with it.
A head that is right as far as it goes, but ends, is told from that.

In the patterns 0A is the line feed, 0D the carriage return, 20 the blank and 3A the colon.
-/
namespace BookTheme.Contents

inductive ReplyFault where
  | ended
  | lineEnd
  | version
  | status
  | headerName
  | headerValue
  | tooManyHeaders
  | headersToGoOn
  | length
  | chunkText
  | chunkLength
  | chunkEnd
deriving DecidableEq, Repr

def ReplyFault.message : ReplyFault → String
  | ended => "io: Peer disconnected"
  | lineEnd => "protocol: http parse fail: invalid new line"
  | version => "protocol: http parse fail: invalid HTTP version"
  | status => "protocol: http parse fail: invalid response status"
  | headerName => "protocol: http parse fail: invalid header name"
  | headerValue => "protocol: http parse fail: invalid header value"
  | tooManyHeaders => "protocol: http parse resulted in too many headers"
  | headersToGoOn => "protocol: received headers with 100-continue response"
  | length => "protocol: content-length header not a number"
  | chunkText => "protocol: chunk length is not ascii"
  | chunkLength => "protocol: chunk length cannot be read as a number"
  | chunkEnd => "protocol: chunk expected crlf as next character"

structure Header where
  name : Text
  value : Bytes
deriving DecidableEq

structure Head where
  /-- Whether the version is one in which a body may come in chunks. -/
  knowsChunks : Bool
  status : Nat
  headers : List Header
deriving DecidableEq

namespace Head

def readLineEnd (fault : ReplyFault) : Bytes → Except ReplyFault Bytes
  | [] | [0x0D] => .error .ended
  | 0x0A :: rest | 0x0D :: 0x0A :: rest => .ok rest
  | _ => .error fault

def skipEmptyLines : Bytes → Except ReplyFault Bytes
  | 0x0A :: rest | 0x0D :: 0x0A :: rest => skipEmptyLines rest
  | [0x0D] => .error .ended
  | 0x0D :: _ => .error .lineEnd
  | s => .ok s

/-- Whether a byte may stand in a reason or in the value of a header: a tab, a visible sign of ASCII or a
blank, or what is beyond ASCII. -/
def isText (b : UInt8) : Bool := b = 0x09 || (0x20 ≤ b && b ≠ 0x7F)

def readLine (fault : ReplyFault) : Bytes → Except ReplyFault (Bytes × Bytes)
  | [] => .error .ended
  | b :: rest =>
    if isText b then (readLine fault rest).map fun (line,rest) => (b :: line,rest)
    else (readLineEnd fault (b :: rest)).map ([],·)

def protocol : Bytes := Utf8.encode "HTTP/1.".toList

def readVersion (s : Bytes) : Except ReplyFault (Bool × Bytes) :=
  if protocol.isPrefixOf s then
    match s.drop protocol.length with
    | [] => .error .ended
    | 0x30 :: rest => .ok (false,rest)
    | 0x31 :: rest => .ok (true,rest)
    | _ => .error .version
  else .error (if s.isPrefixOf protocol then .ended else .version)

def readBlank : Bytes → Except ReplyFault Bytes
  | [] => .error .ended
  | 0x20 :: rest => .ok rest
  | _ => .error .version

def readDigits (n : Nat) : Nat → Bytes → Except ReplyFault (Nat × Bytes)
  | 0, s => .ok (n,s)
  | _ + 1, [] => .error .ended
  | digits + 1, b :: rest =>
    if 0x30 ≤ b && b ≤ 0x39 then readDigits (n * 10 + (b.toNat - 0x30)) digits rest
    else .error .status

def skipReason : Bytes → Except ReplyFault Bytes
  | 0x20 :: rest => (readLine .status rest).map (·.2)
  | s => readLineEnd .status s

/-- The signs, other than letters and digits, of which the name of a header may consist. -/
def nameSigns : Text := "!#$%&'*+-.^_|~\x60".toList

def isInName (b : UInt8) : Bool :=
  let c := Char.ofNat b.toNat
  c.isAlphanum || c ∈ nameSigns

def isBlank (b : UInt8) : Bool := b = 0x20 || b = 0x09

def trim (value : Bytes) : Bytes := ((value.dropWhile isBlank).reverse.dropWhile isBlank).reverse

def readValue : Bytes → Except ReplyFault (Bytes × Bytes)
  | [] => .error .ended
  | 0x3A :: rest => (readLine .headerValue rest).map fun (value,rest) => (trim value,rest)
  | _ => .error .headerName

def readHeader (s : Bytes) : Except ReplyFault (Header × Bytes) :=
  let name := s.takeWhile isInName
  if name.isEmpty then .error .headerName
  else (readValue (s.dropWhile isInName)).map fun (value,rest) =>
    (⟨name.map fun b => (Char.ofNat b.toNat).toLower,value⟩,rest)

/-- Read headers and the empty line behind them, when there is room for a number of headers. -/
def readHeaders (room : Nat) (s : Bytes) : Except ReplyFault (List Header × Bytes) :=
  if s.head?.all fun b => b = 0x0A || b = 0x0D then (readLineEnd .lineEnd s).map ([],·)
  else do
    let (header,rest) ← readHeader s
    match room with
    | 0 => .error .tooManyHeaders
    | room + 1 =>
      let (headers,rest) ← readHeaders room rest
      return (header :: headers,rest)

def maxHeaders : Nat := 128

/-- Read a head. No status is less than 100. -/
def read (s : Bytes) : Except ReplyFault (Head × Bytes) := do
  let (knowsChunks,s) ← readVersion (← skipEmptyLines s)
  let (status,s) ← readDigits 0 3 (← readBlank s)
  let (headers,s) ← readHeaders maxHeaders (← skipReason s)
  if status < 100 then .error .status else return (⟨knowsChunks,status,headers⟩,s)

/-- What the first header of a name says, if that is plain ASCII. -/
def value? (h : Head) (name : String) : Option Text :=
  ((h.headers.find? (·.name = name.toList)).map (·.value)).bind fun value =>
    if value.all fun b => isText b && b < 0x80 then some (value.map fun b => Char.ofNat b.toNat)
    else none

end Head
end BookTheme.Contents
