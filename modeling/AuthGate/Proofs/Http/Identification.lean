import AuthGate.Proofs.Http.Effect
import AuthGate.Proofs.Service.Bearer

namespace AuthGate

namespace HttpResponse

end HttpResponse

namespace AuthService

variable (service : AuthService)

end AuthService

namespace App

open AuthService (Bearerless Presents)

variable (app : App) (now : Instant)

end App

end AuthGate
