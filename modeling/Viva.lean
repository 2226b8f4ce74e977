import Viva.Recorder.PageWatch
import Viva.Rehearsal.Basic
import Viva.Settings.Basic
import Viva.Token.Path
import Viva.Token.Store
import Viva.Proofs.Conversation.Setback
import Viva.Proofs.Media.Conservation
import Viva.Proofs.Media.Possession
import Viva.Proofs.Media.Timeslices
import Viva.Proofs.Recorder.Chronicle
import Viva.Proofs.Recorder.Duration
import Viva.Proofs.Recorder.Ending
import Viva.Proofs.Recorder.Resumption
import Viva.Proofs.Recorder.Settled
import Viva.Proofs.Session.Abandonment
import Viva.Proofs.Session.Failing
import Viva.Proofs.Session.Following
import Viva.Proofs.Session.Hangup
import Viva.Proofs.Session.Isolation
import Viva.Proofs.Session.Logout
import Viva.Proofs.Session.Parts
import Viva.Proofs.Session.Recordings
import Viva.Proofs.Session.Repeating
import Viva.Proofs.Session.Voices
import Viva.Proofs.Stream.Cancellation
import Viva.Proofs.Stream.Delivery
import Viva.Proofs.Stream.Interruption
import Viva.Proofs.Stream.Meaning
import Viva.Proofs.Stream.Reassembly
import Viva.Proofs.Stream.Succession
