import UptimeAlert.Proofs.Template.Placeholder
import UptimeAlert.Template.Block

namespace UptimeAlert.Template.Block

open UptimeAlert.Text

/-- The name in the marker that opens the block of a verdict. -/
def openName : Status → List Char
  | .up => ['I', 'F', '_', 'U', 'P']
  | .down => ['I', 'F', '_', 'D', 'O', 'W', 'N']

def closeName : Status → List Char
  | .up => ['E', 'N', 'D', '_', 'U', 'P']
  | .down => ['E', 'N', 'D', '_', 'D', 'O', 'W', 'N']

theorem opening_eq (s : Status) : opening s = placeholder (openName s) := by
  cases s <;> decide

theorem closing_eq (s : Status) : closing s = placeholder (closeName s) := by
  cases s <;> decide

theorem braceFree_openName (s : Status) : BraceFree (openName s) := by
  cases s <;> decide

theorem braceFree_closeName (s : Status) : BraceFree (closeName s) := by
  cases s <;> decide

/-- The first block of a verdict is the text between the first opening marker and the first closing
one after it. -/
theorem changeFirst_block {s : Status} {before inside after : List Char}
    (hbefore : ¬ opening s <:+: before) (hinside : ¬ closing s <:+: inside)
    (f : List Char → List Char) :
    changeFirst s f (before ++ opening s ++ inside ++ closing s ++ after) =
      before ++ f inside ++ after := by
  have hopen : Avoids (opening s) before (opening s ++ (inside ++ (closing s ++ after))) := by
    rw [opening_eq] at hbefore ⊢
    exact avoids_placeholder_append_open (braceFree_openName s) hbefore _
  have hclose : Avoids (closing s) inside (closing s ++ after) := by
    rw [closing_eq] at hinside ⊢
    exact avoids_placeholder_append_open (braceFree_closeName s) hinside _
  simp only [List.append_assoc]
  rw [changeFirst, cut?_append hopen, cut?_self]
  simp only [Option.map_some, List.append_nil]
  rw [cut?_append hclose, cut?_self]
  simp

end UptimeAlert.Template.Block
