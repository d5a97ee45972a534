import PodPlacement.Inventory
import PodPlacement.Log
import PodPlacement.Text.Encoding
import PodPlacement.Text.Pair

/-!
# Asking the scheduler

One question and what comes of it.  A site without datastore clusters asks nothing, and for a
cluster that is not known nothing is posted; else there is one post.

    (recommend …).2.posts.length ≤ 1            (length_posts_recommend_le)
-/

namespace PodPlacement

open Json Text

/-- The recommendations of an answer, as they come; there is one at least. -/
structure Offers where
  first : Members
  rest : List Members

namespace Offers

def toList (o : Offers) : List Members := o.first :: o.rest

def last (o : Offers) : Members := o.rest.getLastD o.first

def size (o : Offers) : Nat := o.rest.length + 1

end Offers

def Failure.ofBreakdown (limit : Timeout) (breakdown : Breakdown) (message : Text) : Failure :=
  match breakdown with
  | .foreign => .foreign message
  | .badValue => .badValue message
  | b => if b.isTimeout then .timedOut limit b else .transport b message

/-- The failure that the body of an answer means when it is not read. -/
def Failure.ofParseError (text : String) (e : ParseError) : Failure :=
  match e with
  | .malformed _ _ => .notJson (e.message text)
  | .wholeTooLong _ => .badValue (e.message text)
  | .tooDeep _ => .tooDeep (e.message text)

/-- The text of the body of an answer.  Its encoding is told by its first two characters, and
it is UTF-8 if the rest is not in that encoding. -/
def decodeAnswer (body : String) : String :=
  match utf8Bytes body.toList with
  | [a, b] => if a < 0x80 then String.ofList (decodePair a b) else body
  | bytes => String.ofList (((Encoding.ofFirstTwo bytes).decode? none bytes).getD body.toList)

/-- An answer without the character zero and without a mark is read as it is. -/
theorem decodeAnswer_of_plain {body : String} (hlength : 2 < body.toList.length)
    (hzero : '\x00' ∉ body.toList) (hmark : body.toList.head? ≠ some mark) :
    decodeAnswer body = body := by
  have hbytes := Nat.lt_of_lt_of_le hlength (length_le_length_utf8Bytes body.toList)
  have hdrop : dropMark body.toList = body.toList := by
    cases h : body.toList with
    | nil => rfl
    | cons c cs =>
      rw [h] at hmark
      exact if_neg fun hc => hmark (congrArg some hc)
  unfold decodeAnswer
  split
  · next hpair =>
    rw [hpair] at hbytes
    exact absurd hbytes (Nat.lt_irrefl 2)
  · rw [ofFirstTwo_of_not_mem (zero_not_mem_utf8Bytes hzero), decode?_utf8, hdrop,
      Option.getD_some, String.ofList_toList]

/-- The value that the body of an answer is, with no more than `room` lists and objects within
one another. -/
def readBody (room : Nat) (body : String) : Except Failure Json :=
  let text := decodeAnswer body
  match parseUnmarked room text with
  | .ok value => .ok value
  | .error e => .error (.ofParseError text e)

def isErrorStatus (status : Nat) : Bool := 400 ≤ status && status < 600

/-- The answer that a reply to a post holds. -/
def answerOf (room : Nat) (p : Post) : Reply → Except Failure SchedulerAnswer
  | .broken breakdown message => .error (.ofBreakdown p.timeout breakdown message)
  | .answer status reason body =>
    match body with
    | .broken _ _ _ => .error (.unencodableBody body)
    | .proper text =>
      if isErrorStatus status then .error (.refused status reason p.url)
      else
        match readBody room text with
        | .error failure => .error failure
        | .ok value =>
          match (Document.read value : Checked SchedulerAnswer) with
          | .faulty faults => .error (.faultyAnswer faults)
          | .valid answer => .ok answer

def SchedulerAnswer.offers? (a : SchedulerAnswer) : Option Offers :=
  match a.recommendations with
  | [] => none
  | first :: rest => some ⟨first, rest⟩

/-- The post that asks for the placement of a spec in a cluster. -/
def Connection.postFor (c : Connection) (spec : ConfigSpec) (pool : Reference) (pod : Cluster) :
    Post :=
  ⟨c.url, c.timeout, .ofSpec spec pool pod.reference⟩

/-- What is noted while a request is composed. -/
def compositionEvents (spec : ConfigSpec) (pod : Cluster) : List Event :=
  .composing :: spec.newDisks.map fun d => .asking d.name pod.place

/-- The recommendations for a spec in a cluster, or why there are none. -/
def recommend (connection : Connection) (clusters : ClusterDirectory) (scheduler : Scheduler)
    (spec : ConfigSpec) (pool : Reference) (clusterId tag : Text) :
    Except Failure Offers × Trace :=
  if !connection.managed then (.error .unmanaged, .empty)
  else
    let looked := Trace.clusterLookup clusterId
    match clusters clusterId with
    | .error e => (.error (.ofClusterLookup clusterId e), looked)
    | .ok pod =>
      let post := connection.postFor spec pool pod
      let posted := looked ++ Trace.notes tag (compositionEvents spec pod) ++ Trace.post post
      match answerOf connection.room post (scheduler post) with
      | .error failure => (.error failure, posted)
      | .ok answer =>
        match answer.offers? with
        | none => (.error .noRecommendation, posted)
        | some offers => (.ok offers, posted ++ Trace.notes tag [.received offers.size])

theorem length_posts_recommend_le (connection : Connection) (clusters : ClusterDirectory)
    (scheduler : Scheduler) (spec : ConfigSpec) (pool : Reference) (clusterId tag : Text) :
    (recommend connection clusters scheduler spec pool clusterId tag).2.posts.length ≤ 1 := by
  unfold recommend
  split
  · exact Nat.zero_le 1
  · simp only
    split
    · exact Nat.zero_le 1
    · next pod _ =>
      have h : (Trace.clusterLookup clusterId ++ Trace.notes tag (compositionEvents spec pod) ++
          Trace.post (connection.postFor spec pool pod)).posts.length = 1 := rfl
      split
      · exact Nat.le_of_eq h
      · split
        · exact Nat.le_of_eq h
        · rw [Trace.append_posts, List.length_append, h]
          exact Nat.le_refl 1

end PodPlacement
