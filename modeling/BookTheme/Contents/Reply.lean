import BookTheme.Contents.Head.Rest
import BookTheme.Contents.Outcome
import BookTheme.Decimal.Numeral
import BookTheme.Text.Hexadecimal

/-! # Replies on the wire

What comes over a connection until its end: heads of preliminary replies, of which each is the whole reply,
then the head of the final one and its body. The head says how far the body goes: as far as the length that
it announces, or chunk by chunk to an empty one, or to the end. Replies of some statuses have no body,
whatever is announced. A body that ends before that is no reply.
-/
namespace BookTheme.Contents.Reply

/-! ## Chunks

A chunk is a line with the number of its bytes in hexadecimal digits, behind which a semicolon may set off
more, then the bytes, and the end of a line. Here a line end is always both bytes, 0D and 0A.
-/

def readLine? : Bytes → Option (Bytes × Bytes)
  | [] => none
  | 0x0D :: 0x0A :: rest => some ([],rest)
  | b :: rest => (readLine? rest).map fun (line,rest) => (b :: line,rest)

theorem length_readLine?_lt {s line rest : Bytes} (h : readLine? s = some (line,rest)) :
    rest.length < s.length := by
  fun_induction readLine? s generalizing line rest with
  | case1 => cases h
  | case2 => grind
  | case3 b s hs ih =>
    obtain ⟨⟨line',rest'⟩,h',h⟩ := Option.map_eq_some_iff.1 h
    obtain ⟨rfl,rfl⟩ := Prod.mk.inj h
    exact Nat.lt_succ_of_lt (ih h')

/-- The number of bytes that the first line of a chunk says; it may have a plus sign. -/
def chunkLength (line : Bytes) : Except ReplyFault Nat :=
  match Utf8.decode (line.takeWhile (· ≠ 0x3B)) with
  | .error _ => .error .chunkText
  | .ok number =>
    let digits := if number.head? = some '+' then number.tail else number
    match Text.hexNumberFrom? 0 digits with
    | none => .error .chunkLength
    | some n => if digits.isEmpty || UInt64.size ≤ n then .error .chunkLength else .ok n

def readChunkEnd : Bytes → Except ReplyFault Bytes
  | [] | [_] => .error .ended
  | 0x0D :: 0x0A :: rest => .ok rest
  | _ => .error .chunkEnd

theorem length_readChunkEnd_le {s rest : Bytes} (h : readChunkEnd s = .ok rest) :
    rest.length ≤ s.length := by
  unfold readChunkEnd at h
  grind

def readChunks (s : Bytes) : Except ReplyFault Bytes :=
  match _ : readLine? s with
  | none => .error .ended
  | some (line,rest) =>
    match chunkLength line with
    | .error e => .error e
    | .ok n =>
      if rest.length < n then .error .ended
      else match _ : readChunkEnd (rest.drop n) with
        | .error e => .error e
        | .ok next => if n = 0 then .ok [] else (readChunks next).map (rest.take n ++ ·)
termination_by s.length
decreasing_by
  exact Nat.lt_of_le_of_lt
    (Nat.le_trans (length_readChunkEnd_le ‹_›) (List.drop_suffix n rest).length_le)
    (length_readLine?_lt ‹_›)

/-! ## Bodies -/

inductive Extent where
  | nothing
  | bytes (length : Nat)
  | chunks
  | toEnd
deriving DecidableEq, Repr

def announced? (h : Head) : Except ReplyFault (Option Nat) :=
  match h.value? "content-length" with
  | none => .ok none
  | some value =>
    match Decimal.readNat (UInt64.size - 1) value with
    | .ok n => .ok (some n)
    | .error _ => .error .length

def isInChunks (h : Head) : Bool :=
  h.knowsChunks && (h.value? "transfer-encoding").any fun value =>
    (value.splitOn ',').any fun word => (Text.trim word).map Char.toLower = "chunked".toList

/-- Whether a reply of a status has a body. Those before the final one have none, nor those that say that
there is nothing, or nothing new. -/
def hasBody (status : Nat) : Bool := 200 ≤ status && status ≠ 204 && status ≠ 304

def extent (h : Head) : Except ReplyFault Extent :=
  (announced? h).map fun announced =>
    if !hasBody h.status then .nothing
    else if isInChunks h then .chunks
    else match announced with
      | some n => .bytes n
      | none => .toEnd

def readBody (s : Bytes) : Extent → Except ReplyFault Bytes
  | .nothing => .ok []
  | .bytes n => if s.length < n then .error .ended else .ok (s.take n)
  | .chunks => readChunks s
  | .toEnd => .ok s

/-! ## Replies -/

/-- Whether another reply follows one of a status. A change of the protocol is final. -/
def isPreliminary (status : Nat) : Bool := status < 200 && status ≠ 101

/-- Read heads up to the final one: its status, how far its body goes, and what is left behind it. A head
that asks to go on, with status 100, has no headers. -/
def readHeads (s : Bytes) : Except ReplyFault (Nat × Extent × Bytes) :=
  match _ : Head.read s with
  | .error e => .error e
  | .ok (head,rest) =>
    if head.status = 100 then
      if head.headers.isEmpty then readHeads rest else .error .headersToGoOn
    else match extent head with
      | .error e => .error e
      | .ok extent =>
        if isPreliminary head.status then readHeads rest else .ok (head.status,extent,rest)
termination_by s.length
decreasing_by all_goals exact Head.length_read_lt ‹_›

def read (s : Bytes) : Except ReplyFault (Nat × Bytes) := do
  let (status,extent,rest) ← readHeads s
  return (status,← readBody rest extent)

def outcomeOf (received : Bytes) : Outcome :=
  match read received with
  | .ok (status,body) => .reply status body
  | .error fault => .noReply fault.message.toList

end BookTheme.Contents.Reply
