import Decksmith.Card.Printed
import Decksmith.Deck.Data
import Decksmith.Deck.Validation
import Decksmith.Json.Parse
import Decksmith.Json.Render
import Decksmith.Preferences.Generate
import Decksmith.Recipe.Build
import Decksmith.Recipe.Load
import Decksmith.Proofs.Deck.Index
import Decksmith.Proofs.Deck.Copies
import Decksmith.Proofs.Deck.Stock
import Decksmith.Proofs.Deck.Validation
import Decksmith.Proofs.Query.Mask
import Decksmith.Proofs.Query.Agreement
import Decksmith.Proofs.Random.Draws
import Decksmith.Proofs.Slot.Picks
import Decksmith.Proofs.Slot.Admission
import Decksmith.Proofs.Assembly.Run
import Decksmith.Proofs.Assembly.Sound
import Decksmith.Proofs.Binary64.Canonical
import Decksmith.Proofs.Binary64.Rounding
import Decksmith.Proofs.Assembly.Size
import Decksmith.Proofs.Assembly.CopyLimit
import Decksmith.Proofs.Assembly.Success
import Decksmith.Proofs.Assembly.Origin
import Decksmith.Proofs.Query.Grammar
import Decksmith.Proofs.Query.Layout
import Decksmith.Proofs.Query.Predicate
import Decksmith.Proofs.Query.Rendering
import Decksmith.Proofs.Query.Balance
import Decksmith.Proofs.Query.Building
import Decksmith.Proofs.Query.Arena
import Decksmith.Proofs.Query.Evaluation
import Decksmith.Proofs.Query.RoundTrip
import Decksmith.Proofs.Query.Composition
import Decksmith.Proofs.Assembly.Stall
import Decksmith.Proofs.Query.Stability
import Decksmith.Proofs.Query.Duality
import Decksmith.Proofs.Assembly.Determinism
import Decksmith.Proofs.Query.Scan
import Decksmith.Proofs.Query.Descent
import Decksmith.Proofs.Query.Arrangement
import Decksmith.Proofs.Preferences.Composition
import Decksmith.Proofs.Slot.Places
import Decksmith.Proofs.Assembly.Trim
import Decksmith.Proofs.Binary64.Arithmetic
import Decksmith.Proofs.Binary64.Conversion
import Decksmith.Proofs.Binary64.Levels
import Decksmith.Proofs.Binary64.Monotone
import Decksmith.Proofs.Preferences.Shares
import Decksmith.Proofs.Preferences.Size
import Decksmith.Proofs.Preferences.Identity
import Decksmith.Proofs.Binary64.Sums
import Decksmith.Proofs.Random.Weights
import Decksmith.Proofs.Slot.Weighted
import Decksmith.Proofs.Slot.Ranked
import Decksmith.Proofs.Slot.Prefix
import Decksmith.Proofs.Slot.Ties
import Decksmith.Proofs.Assembly.Schedule
import Decksmith.Proofs.Assembly.Remainder
import Decksmith.Proofs.Query.Copying
import Decksmith.Proofs.Query.Rewriting
import Decksmith.Proofs.Query.CaseModes
import Decksmith.Proofs.Query.Unreadable
import Decksmith.Proofs.Binary64.Signed
import Decksmith.Proofs.Decimal.Whole
import Decksmith.Proofs.Query.Counting
import Decksmith.Proofs.Ranking
import Decksmith.Proofs.Slot.Reordering
import Decksmith.Proofs.Slot.Quantity
import Decksmith.Proofs.Deck.Entries
import Decksmith.Proofs.Deck.Failures
import Decksmith.Proofs.Pattern.Escaping
import Decksmith.Proofs.Recipe.Building
import Decksmith.Proofs.Query.Respacing
import Decksmith.Proofs.Card.TypeLine
import Decksmith.Proofs.Card.Mana
import Decksmith.Proofs.Assembly.Pool
import Decksmith.Proofs.Query.ByteToken
