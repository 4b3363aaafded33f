import LintPool.Frame.Header
import LintPool.Frame.Grammar

set_option autoImplicit false

/-!
# Reading frames as bytes arrive

Bytes arrive in pieces that know nothing of frames. The decoder takes one byte at a time and says
when a frame is complete or faulty; after a fault it takes no more.

## Main definitions

* `LintPool.FrameDecoder` — how far the decoder is.
* `LintPool.FrameDecoder.push` — one more byte.
* `LintPool.FrameDecoder.feed` — a piece of the stream.
* `LintPool.FrameDecoder.finish` — the end of the stream.
-/

namespace LintPool

/-- How far the decoder is. -/
inductive FrameDecoder where
  /-- Between two frames. -/
  | idle
  /-- In a header: the last length given, and the line so far, backwards. -/
  | header (length : Option Nat) (line : Bytes)
  /-- In a body: the number of bytes to come, and those that are there, backwards. -/
  | body (missing : Nat) (taken : Bytes)
  /-- At a fault. -/
  | broken (fault : FrameFault)
  deriving Repr, DecidableEq, Inhabited

namespace FrameDecoder

/-- Ends a body. -/
def endBody (body : Bytes) : Option Json × FrameDecoder :=
  match decodeBody body with
  | .ok v => (some v, .idle)
  | .error fault => (none, .broken fault)

/-- Ends a header. -/
def endHeader (length : Option Nat) : Option Json × FrameDecoder :=
  match acceptLength length with
  | .error fault => (none, .broken fault)
  | .ok 0 => endBody []
  | .ok n => (none, .body n [])

/-- Ends a line of a header. -/
def endLine (length : Option Nat) (line : Bytes) : Option Json × FrameDecoder :=
  match headerLine line with
  | .error fault => (none, .broken fault)
  | .ok .blank => endHeader length
  | .ok .other => (none, .header length [])
  | .ok (.length n) => (none, .header (some n) [])

/-- Takes a byte of a header. -/
def pushHeader (length : Option Nat) (line : Bytes) (b : UInt8) : Option Json × FrameDecoder :=
  if b = 0x0A then endLine length (b :: line).reverse else (none, .header length (b :: line))

/-- Takes one more byte; yields the message that it completes. -/
def push (b : UInt8) : FrameDecoder → Option Json × FrameDecoder
  | .idle => pushHeader none [] b
  | .header length line => pushHeader length line b
  | .body missing taken =>
    if missing ≤ 1 then endBody (b :: taken).reverse else (none, .body (missing - 1) (b :: taken))
  | .broken fault => (none, .broken fault)

/-- Takes a piece of the stream; the messages that it completes go before those in `done`, which
is held backwards. -/
def feedOnto (done : List Json) : Bytes → FrameDecoder → List Json × FrameDecoder
  | [], d => (done, d)
  | b :: rest, d =>
    let (v, d) := d.push b
    feedOnto (v.toList ++ done) rest d

/-- Takes a piece of the stream; yields the messages that it completes. -/
def feed (piece : Bytes) (d : FrameDecoder) : List Json × FrameDecoder :=
  let (done, d) := feedOnto [] piece d
  (done.reverse, d)

/-- Takes the end of the stream, where a last line without a line feed counts; yields the message
that it completes. -/
def finish : FrameDecoder → Option Json × StreamEnd
  | .idle => (none, .clean)
  | .header _ [] => (none, .faulty .endedInHeader)
  | .header length line =>
    match endLine length line.reverse with
    | (v, .idle) => (v, .clean)
    | (v, .header _ _) => (v, .faulty .endedInHeader)
    | (v, .body _ _) => (v, .faulty .endedInBody)
    | (v, .broken fault) => (v, .faulty fault)
  | .body _ _ => (none, .faulty .endedInBody)
  | .broken fault => (none, .faulty fault)

/-- The fault, if the decoder is at one. -/
def fault? : FrameDecoder → Option FrameFault
  | .broken fault => some fault
  | _ => none

/-- All messages of a stream that arrives in pieces, and how it ends. -/
def readAll (pieces : List Bytes) : List Json × StreamEnd :=
  let (messages, d) := pieces.foldl
    (fun acc piece =>
      let (vs, d) := FrameDecoder.feed piece acc.2
      (acc.1 ++ vs, d))
    ([], FrameDecoder.idle)
  let (last, ending) := d.finish
  (messages ++ last.toList, ending)

end FrameDecoder

end LintPool
