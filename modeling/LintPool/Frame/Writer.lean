import LintPool.Frame.Header
import LintPool.Json.Printer

set_option autoImplicit false

/-!
# Writing frames

## Main definitions

* `LintPool.frameOf` — the bytes of a frame.
-/

namespace LintPool

/-- The bytes of the frame of a message. -/
def frameOf (message : Json) : Bytes :=
  let body := Text.encode message.render
  Text.encode s!"Content-Length: {body.length}\r\n\r\n" ++ body

end LintPool
