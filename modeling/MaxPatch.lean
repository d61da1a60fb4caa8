import MaxPatch.Device.Session
import MaxPatch.Main
import MaxPatch.Patch.Edit
import MaxPatch.Proofs.Agreement
import MaxPatch.Proofs.Columns
import MaxPatch.Proofs.CordOrder
import MaxPatch.Proofs.Coverage
import MaxPatch.Proofs.Documents
import MaxPatch.Proofs.Flow
import MaxPatch.Proofs.Handles
import MaxPatch.Proofs.Histories
import MaxPatch.Proofs.Links
import MaxPatch.Proofs.Observation
import MaxPatch.Proofs.Placement
import MaxPatch.Proofs.Records
import MaxPatch.Proofs.Rounds
import MaxPatch.Proofs.Sessions
import MaxPatch.Proofs.Stragglers
import MaxPatch.Proofs.Geometry
import MaxPatch.Proofs.Foreign
import MaxPatch.Proofs.Face
import MaxPatch.Proofs.Overlap
import MaxPatch.Proofs.Precedence
import MaxPatch.Proofs.Ripples
import MaxPatch.Proofs.Independence
import MaxPatch.Proofs.Packing
import MaxPatch.Proofs.Chains
import MaxPatch.Proofs.Origins
import MaxPatch.Proofs.Suspicions
import MaxPatch.Proofs.Context
import MaxPatch.Proofs.Members
import MaxPatch.Proofs.Attributes
import MaxPatch.Proofs.Texts
import MaxPatch.Proofs.Registrations
import MaxPatch.Proofs.Metadata
import MaxPatch.Proofs.Tables
import MaxPatch.Proofs.Saving
import MaxPatch.Proofs.Scaffolds
import MaxPatch.Proofs.Stems
import MaxPatch.Proofs.Labels
import MaxPatch.Proofs.Numbers
