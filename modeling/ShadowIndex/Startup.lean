import ShadowIndex.Application
import ShadowIndex.Observe.Logging

/-!
Contract: the start of a service from its settings.

Owns:
- `Startup`, a running application with the logging and tracing that were set up for it;
- the order of what is noted: tracing, the store, and that the service is ready.

Does not own: where settings come from.
-/

set_option autoImplicit false

namespace ShadowIndex

structure Startup where
  application : Application
  logging : Logging
  tracing : Bool
deriving Inhabited

namespace Settings

def lineForm (settings : Settings) : LineForm := if settings.jsonLogs then .json else .plain

end Settings

namespace Startup

/-- What is noted before the store is opened. -/
def openingTrail (settings : Settings) (observed : Bool) : Trail :=
  if observed && settings.tracing then Trail.empty.record (.note (.tracingReady settings.serviceName))
  else .empty

/-- A service that has noted that it is ready. -/
def readyService (settings : Settings) (observed : Bool) : Service :=
  let service := Service.start settings (openingTrail settings observed)
  let ready :=
    Note.serviceReady settings.backend.text settings.reindexOnSearch settings.eagerReindex
  { service with index := service.index.record (.note ready) }

/-- Starts a service for listeners; logging and tracing are set up only when it is `observed`. -/
def run (settings : Settings) (observed : Bool) (listeners : List Listener) : Startup where
  application := .start (readyService settings observed) listeners
  logging :=
    if observed then Logging.initial.configure settings.logLevel settings.lineForm []
    else .initial
  tracing := observed && settings.tracing

end Startup

end ShadowIndex
