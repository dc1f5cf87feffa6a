import NodeLink.Credential.Basic
import NodeLink.Credential.Draft
import NodeLink.Profile.Samples
import NodeLink.Rehearsal.Drill
import NodeLink.Session.Scenario
import NodeLink.Settings.File
import NodeLink.Store.Profiles
import NodeLink.Proofs.Session.LiveLink
import NodeLink.Proofs.Session.Log
import NodeLink.Proofs.Session.Path
import NodeLink.Proofs.Session.LastWins
import NodeLink.Proofs.Session.Schedule
import NodeLink.Proofs.Link.Frame
import NodeLink.Proofs.Session.Agreement
import NodeLink.Proofs.Session.Inert
import NodeLink.Proofs.Store.Profiles
import NodeLink.Proofs.Exchange.Calls
import NodeLink.Proofs.Session.Upkeep
import NodeLink.Proofs.Session.Finality
import NodeLink.Proofs.Exchange.Envelope
import NodeLink.Proofs.Exchange.Items
import NodeLink.Proofs.Exchange.Payload
import NodeLink.Proofs.Credential.Provisioning
import NodeLink.Proofs.Store.History
import NodeLink.Proofs.Store.Replacement
import NodeLink.Proofs.Address.Multiaddr
import NodeLink.Proofs.Settings.File
import NodeLink.Proofs.Session.Secrecy
import NodeLink.Proofs.Profile.NetworkKey
import NodeLink.Proofs.Address.Socket
import NodeLink.Proofs.Address.Forms
import NodeLink.Proofs.Session.Aftermath
import NodeLink.Proofs.Exchange.Listing
import NodeLink.Proofs.Session.Message
import NodeLink.Proofs.Session.Rejection
import NodeLink.Proofs.Credential.Spelling
import NodeLink.Proofs.Credential.Drafting
import NodeLink.Proofs.Settings.Precedence
import NodeLink.Proofs.Session.Resolutions
import NodeLink.Proofs.Session.Rounds
import NodeLink.Proofs.Address.Port
import NodeLink.Proofs.Link.Binding
import NodeLink.Proofs.Session.Registry
import NodeLink.Proofs.Profile.Members
import NodeLink.Proofs.Rehearsal.Interplay
