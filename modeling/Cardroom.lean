import Cardroom.Main
import Cardroom.Service
import Cardroom.Proofs.Combination.Growth
import Cardroom.Proofs.Combination.Layout
import Cardroom.Proofs.Match.Conservation
import Cardroom.Proofs.Match.Hidden
import Cardroom.Proofs.Match.Refusal
import Cardroom.Proofs.Server.Agreement
import Cardroom.Proofs.Wire.Reading
import Cardroom.Proofs.Wire.Stream
import Cardroom.Proofs.Match.Orderly
import Cardroom.Proofs.Match.Turns
import Cardroom.Proofs.Match.Progress
import Cardroom.Proofs.Server.Keeps
import Cardroom.Proofs.Server.Interruption
import Cardroom.Proofs.Server.LifeCycle
import Cardroom.Proofs.Server.Identity
import Cardroom.Proofs.Server.Sendable
import Cardroom.Proofs.Server.Confined
import Cardroom.Proofs.Server.Isolation
import Cardroom.Proofs.Delivery.Interleaving
import Cardroom.Proofs.Match.Face
import Cardroom.Proofs.Server.Cards
import Cardroom.Proofs.Server.Shown
import Cardroom.Proofs.Delivery.Latest
import Cardroom.Proofs.Server.Readmission
import Cardroom.Proofs.Room.Requests
import Cardroom.Proofs.Server.Refusals
import Cardroom.Proofs.Server.Evict
import Cardroom.Proofs.Server.Expire
import Cardroom.Proofs.Server.Swept
import Cardroom.Proofs.Server.Ending
import Cardroom.Proofs.Server.Simultaneous
import Cardroom.Proofs.Combination.Fit
import Cardroom.Proofs.Combination.Legal
import Cardroom.Proofs.Wire.Grammar
import Cardroom.Proofs.Server.UpToDate
import Cardroom.Proofs.Combination.NormalForm
import Cardroom.Proofs.Match.Transfer
import Cardroom.Proofs.Delivery.Writing
import Cardroom.Proofs.Service.Workers
import Cardroom.Proofs.Match.Addressing
import Cardroom.Proofs.Card.Grammar
import Cardroom.Proofs.Session.Grammar
import Cardroom.Proofs.Delivery.Switchboard
import Cardroom.Proofs.Match.Rotation
