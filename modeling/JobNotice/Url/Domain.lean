import JobNotice.Idna.Domain
import JobNotice.Text.Utf8
import JobNotice.Url.Address

/-!
# Domains of URLs

## Main definitions

* `Url.isForbidden` — ASCII characters that no domain of a URL may hold
* `Url.domainToAscii` — a domain in its ASCII form
-/

namespace JobNotice.Url

/-- ASCII characters that no domain of a URL may hold. -/
def isForbidden (c : Char) : Bool :=
  c.toNat ≤ 0x20 || c.toNat == 0x7F || "%#/:<>?@[\\]^|".toList.contains c

/-- A domain in its ASCII form. -/
def domainToAscii (s : List Char) : Option (List Char) := Idna.toAscii isForbidden s

end JobNotice.Url
