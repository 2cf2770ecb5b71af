import AimailBridge.Foundation.SocketAddr
import AimailBridge.Server.App
import AimailBridge.Tls.Hostname

/-!
# Starting to listen

The mode and the setting `bind` decide whether the bridge starts at all, and the hostname with the
certificates whether it speaks HTTPS.  The setting is read a second time for the question whether
port 80 is to redirect, and there a port may be missing.
-/

namespace AimailBridge

open Foundation Text

variable {config : StartConfig} {loads : CertLoads} {listening : Listening}

end AimailBridge
