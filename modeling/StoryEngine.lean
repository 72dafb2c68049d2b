import StoryEngine.Condition.Grammar
import StoryEngine.Condition.Spelling
import StoryEngine.Script.Report
import StoryEngine.Proofs.Batching
import StoryEngine.Proofs.CardsBoundInRuns
import StoryEngine.Proofs.Conjunction
import StoryEngine.Proofs.Conservation
import StoryEngine.Proofs.DeckEdits
import StoryEngine.Proofs.Declined
import StoryEngine.Proofs.Disposal
import StoryEngine.Proofs.EachOnce
import StoryEngine.Proofs.EditNotifications
import StoryEngine.Proofs.FairDraw
import StoryEngine.Proofs.Fault
import StoryEngine.Proofs.FirstFault
import StoryEngine.Proofs.Freshness
import StoryEngine.Proofs.Lookups
import StoryEngine.Proofs.Nesting
import StoryEngine.Proofs.PushSkipped
import StoryEngine.Proofs.Reading
import StoryEngine.Proofs.Retirement
import StoryEngine.Proofs.Rounds
import StoryEngine.Proofs.Shuffling
import StoryEngine.Proofs.Spent
