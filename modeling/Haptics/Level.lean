/-!
# Levels

How much a notice in the log matters, and the names that levels have there.
-/

namespace Haptics

inductive Level where
  | debug
  | info
  | warning
  | error
  deriving DecidableEq, Repr

namespace Level

def all : List Level := [debug, info, warning, error]

def rank : Level → Nat
  | debug => 0
  | info => 1
  | warning => 2
  | error => 3

def name : Level → String
  | debug => "DEBUG"
  | info => "INFO"
  | warning => "WARN"
  | error => "ERROR"

/-- The levels that occur in a log which leaves out what is lighter than `least`. -/
def shown (least : Level) (notices : List Level) : List Level :=
  all.filter fun l => least.rank ≤ l.rank && notices.contains l

end Level

end Haptics
