import SessionStreams.Script.Run
import SessionStreams.World.Trail
import SessionStreams.Proofs.Replies
import SessionStreams.Proofs.Growth
import SessionStreams.Proofs.Handles
import SessionStreams.Proofs.Custody
import SessionStreams.Proofs.Sessions
import SessionStreams.Proofs.SharedFiles
import SessionStreams.Proofs.Dealings
import SessionStreams.Proofs.Performing
import SessionStreams.Proofs.Ledger
import SessionStreams.Proofs.Homes
import SessionStreams.Proofs.Lifetime
import SessionStreams.Proofs.Buffering
import SessionStreams.Proofs.Calls
import SessionStreams.Proofs.Refinement
import SessionStreams.Proofs.Conservation
import SessionStreams.Proofs.Answers
import SessionStreams.Proofs.Failures
import SessionStreams.Proofs.Sentinels
import SessionStreams.Proofs.Files
import SessionStreams.Proofs.Filling
import SessionStreams.Proofs.RoundTrip
import SessionStreams.Proofs.Draws
import SessionStreams.Proofs.Messages
import SessionStreams.Proofs.Layers
import SessionStreams.Proofs.Effects
import SessionStreams.Proofs.Footprints
import SessionStreams.Proofs.Partings
import SessionStreams.Proofs.Reach
import SessionStreams.Proofs.Acting
import SessionStreams.Proofs.Possession
import SessionStreams.Proofs.Delivery
import SessionStreams.Proofs.Pipes
import SessionStreams.Proofs.Openings
import SessionStreams.Proofs.Courses
import SessionStreams.Proofs.Handovers
import SessionStreams.Proofs.Independence
import SessionStreams.Proofs.Safety
import SessionStreams.Proofs.Endings
import SessionStreams.Proofs.Refusals
import SessionStreams.Proofs.Temporary
import SessionStreams.Proofs.Scenes
import SessionStreams.Proofs.Neighbours
import SessionStreams.Proofs.Choices
import SessionStreams.Proofs.Constancy
import SessionStreams.Proofs.Plain
import SessionStreams.Proofs.Residences
import SessionStreams.Proofs.Drafts
import SessionStreams.Proofs.Paving
import SessionStreams.Proofs.Housing
import SessionStreams.Proofs.Chains
import SessionStreams.Proofs.Dialogues
import SessionStreams.Proofs.Pieces
import SessionStreams.Proofs.Reading
import SessionStreams.Proofs.Vessels
import SessionStreams.Proofs.Pouring
import SessionStreams.Proofs.LentMemory
import SessionStreams.Proofs.Collecting
import SessionStreams.Proofs.Crossings
