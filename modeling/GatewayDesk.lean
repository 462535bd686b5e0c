import GatewayDesk.Main
import GatewayDesk.Proofs.Config.Sibling
import GatewayDesk.Proofs.Desk.Import
import GatewayDesk.Proofs.Desk.Profile
import GatewayDesk.Proofs.Desk.Removal
import GatewayDesk.Proofs.Desk.Reply
import GatewayDesk.Proofs.Desk.Transfer
import GatewayDesk.Proofs.Device.Elements
import GatewayDesk.Proofs.Device.Format
import GatewayDesk.Proofs.Device.Integer
import GatewayDesk.Proofs.Device.PlainScalar
import GatewayDesk.Proofs.Device.Record
import GatewayDesk.Proofs.Device.StandardInput
import GatewayDesk.Proofs.Gateway.Wire
import GatewayDesk.Yaml.Value
