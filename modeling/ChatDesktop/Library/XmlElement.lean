import ChatDesktop.Library.Dom

namespace ChatDesktop.Library

inductive XmlElement
  | mk (tagName : Text) (attributes : List (Text × Text)) (value : Text) (children : List XmlElement)

namespace XmlElement

def xmlns : Text := Text.ofAscii "xmlns"

def tagName : XmlElement → Text
  | mk tagName _ _ _ => tagName

def children : XmlElement → List XmlElement
  | mk _ _ _ children => children

def attributeOf (q : XmlElement) (name : Text) : Text :=
  match q with
  | mk _ attributes _ _ => (attributes.lookup name).getD []

mutual

def text : XmlElement → Text
  | mk _ _ value children => value ++ textOf children

def textOf : List XmlElement → Text
  | [] => []
  | q :: qs => q.text ++ textOf qs

end

def hasAttribute (q : XmlElement) (name : Text) : Bool :=
  match q with
  | mk _ attributes _ _ => (attributes.lookup name).isSome

/-- The namespace an element is in, `inherited` being that of its parent. -/
def namespaceIn (inherited : Text) (q : XmlElement) : Text :=
  if q.attributeOf xmlns = [] then inherited else q.attributeOf xmlns

/-- How the names of `q` are seen: with its local name and its namespace, or with `xmlns` as one attribute
among the others. -/
def Named (namespaces : Bool) (ns : Text) (q : XmlElement) (e : Element) : Prop :=
  if namespaces then e.localName = q.tagName ∧ e.namespaceURI = ns ∧ e.hasAttribute xmlns = false
  else e.localName = [] ∧ e.namespaceURI = [] ∧ e.attributeOf xmlns = q.attributeOf xmlns ∧
    e.hasAttribute xmlns = q.hasAttribute xmlns

mutual

def Arrives (namespaces : Bool) (inherited : Text) : XmlElement → Element → Prop
  | mk tagName attributes value children, e =>
    let q := mk tagName attributes value children
    e.tagName = tagName ∧ Named namespaces (q.namespaceIn inherited) q e ∧
      (∀ name, name ≠ xmlns → e.attributeOf name = q.attributeOf name) ∧ e.text = q.text ∧
      ArriveIn namespaces (q.namespaceIn inherited) children e.children

def ArriveIn (namespaces : Bool) (ns : Text) : List XmlElement → List Element → Prop
  | [], es => es = []
  | q :: qs, es => ∃ e es', es = e :: es' ∧ Arrives namespaces ns q e ∧ ArriveIn namespaces ns qs es'

end

variable {namespaces : Bool} {inherited ns : Text} {q : XmlElement} {qs : List XmlElement} {e : Element}
  {es : List Element}

@[simp] lemma arriveIn_nil : ArriveIn namespaces ns [] es ↔ es = [] := by rw [ArriveIn]

@[simp] lemma arriveIn_cons :
    ArriveIn namespaces ns (q :: qs) es ↔
      ∃ e es', es = e :: es' ∧ Arrives namespaces ns q e ∧ ArriveIn namespaces ns qs es' := by rw [ArriveIn]

lemma arriveIn_single :
    ArriveIn namespaces ns [q] es ↔ ∃ e, es = [e] ∧ Arrives namespaces ns q e := by simp

lemma arrives_iff :
    Arrives namespaces inherited q e ↔ e.tagName = q.tagName ∧ Named namespaces (q.namespaceIn inherited) q e ∧
      (∀ name, name ≠ xmlns → e.attributeOf name = q.attributeOf name) ∧ e.text = q.text ∧
      ArriveIn namespaces (q.namespaceIn inherited) q.children e.children := by
  cases q
  rw [Arrives]
  exact Iff.rfl

lemma Arrives.tagName (h : Arrives namespaces inherited q e) : e.tagName = q.tagName := (arrives_iff.mp h).1

lemma Arrives.named (h : Arrives namespaces inherited q e) : Named namespaces (q.namespaceIn inherited) q e :=
  (arrives_iff.mp h).2.1

lemma Arrives.attributeOf (h : Arrives namespaces inherited q e) {name : Text} (hn : name ≠ xmlns) :
    e.attributeOf name = q.attributeOf name :=
  (arrives_iff.mp h).2.2.1 name hn

lemma Arrives.text (h : Arrives namespaces inherited q e) : e.text = q.text := (arrives_iff.mp h).2.2.2.1

lemma Arrives.children (h : Arrives namespaces inherited q e) :
    ArriveIn namespaces (q.namespaceIn inherited) q.children e.children :=
  (arrives_iff.mp h).2.2.2.2

lemma ArriveIn.filter {p : XmlElement → Bool} {r : Element → Bool} (h : ArriveIn namespaces ns qs es)
    (hp : ∀ q ∈ qs, ∀ e, Arrives namespaces ns q e → r e = p q) :
    ArriveIn namespaces ns (qs.filter p) (es.filter r) := by
  induction qs generalizing es with
  | nil =>
    rw [arriveIn_nil] at h
    rw [h, List.filter_nil, List.filter_nil, arriveIn_nil]
  | cons q qs ih =>
    obtain ⟨e, es', rfl, he, hes⟩ := arriveIn_cons.mp h
    have hrest := ih hes (fun q hq => hp q (List.mem_cons_of_mem _ hq))
    have hq := hp q List.mem_cons_self e he
    cases hpq : p q with
    | true =>
      rw [List.filter_cons_of_pos hpq, List.filter_cons_of_pos (hq.trans hpq)]
      exact arriveIn_cons.mpr ⟨e, _, rfl, he, hrest⟩
    | false =>
      rwa [List.filter_cons_of_neg (by simp [hpq]), List.filter_cons_of_neg (by simp [hq, hpq])]

lemma Arrives.childrenNamed (h : Arrives namespaces inherited q e) (name : Text) :
    ArriveIn namespaces (q.namespaceIn inherited) (q.children.filter (fun c => c.tagName = name))
      (e.childrenNamed name) :=
  h.children.filter fun c _ d hd => by rw [hd.tagName]

mutual

def document : XmlElement → Element
  | mk tagName attributes value children =>
    .mk tagName [] [] attributes (documents children) (value ++ textOf children)

def documents : List XmlElement → List Element
  | [] => []
  | q :: qs => q.document :: documents qs

end

mutual

lemma arrives_document (inherited : Text) : ∀ q : XmlElement, Arrives false inherited q q.document
  | mk tagName attributes value children => by
    rw [Arrives, document]
    exact ⟨rfl, ⟨rfl, rfl, rfl, rfl⟩, fun _ _ => rfl, by rw [text]; rfl, arriveIn_documents _ children⟩

lemma arriveIn_documents (ns : Text) : ∀ qs : List XmlElement, ArriveIn false ns qs (documents qs)
  | [] => by rw [documents, arriveIn_nil]
  | q :: qs => arriveIn_cons.mpr
      ⟨q.document, documents qs, by rw [documents], arrives_document ns q, arriveIn_documents ns qs⟩

end

mutual

def namespaced (inherited : Text) : XmlElement → Element
  | mk tagName attributes value children =>
    .mk tagName tagName ((mk tagName attributes value children).namespaceIn inherited)
      (attributes.filter (fun a => !decide (a.1 = xmlns)))
      (namespacedIn ((mk tagName attributes value children).namespaceIn inherited) children) (value ++ textOf children)

def namespacedIn (ns : Text) : List XmlElement → List Element
  | [] => []
  | q :: qs => q.namespaced ns :: namespacedIn ns qs

end

lemma lookup_filter_xmlns {name : Text} (attributes : List (Text × Text)) :
    (attributes.filter (fun a => !decide (a.1 = xmlns))).lookup name =
      if name = xmlns then none else attributes.lookup name := by
  induction attributes with
  | nil => simp
  | cons a attributes ih =>
    by_cases ha : a.1 = xmlns
    · rw [List.filter_cons_of_neg (by simp [ha]), ih, List.lookup_cons]
      by_cases hn : name = xmlns
      · rw [if_pos hn, if_pos hn]
      · rw [if_neg hn, if_neg hn, beq_false_of_ne (fun he => hn (he.trans ha))]
    · rw [List.filter_cons_of_pos (by simp [ha]), List.lookup_cons, List.lookup_cons, ih]
      by_cases hn : name = xmlns
      · rw [if_pos hn, beq_false_of_ne (fun he => ha (he.symm.trans hn)), if_pos hn]
      · rw [if_neg hn, if_neg hn]

mutual

lemma arrives_namespaced (inherited : Text) : ∀ q : XmlElement, Arrives true inherited q (q.namespaced inherited)
  | mk tagName attributes value children => by
    rw [Arrives, namespaced]
    refine ⟨rfl, ⟨rfl, rfl, ?_⟩, fun name hn => ?_, by rw [text]; rfl, arriveIn_namespaced _ children⟩
    · rw [Element.hasAttribute, lookup_filter_xmlns, if_pos rfl]
      rfl
    · rw [Element.attributeOf, lookup_filter_xmlns, if_neg hn]
      rfl

lemma arriveIn_namespaced (ns : Text) : ∀ qs : List XmlElement, ArriveIn true ns qs (namespacedIn ns qs)
  | [] => by rw [namespacedIn, arriveIn_nil]
  | q :: qs => arriveIn_cons.mpr
      ⟨q.namespaced ns, namespacedIn ns qs, by rw [namespacedIn], arrives_namespaced ns q, arriveIn_namespaced ns qs⟩

end

lemma ArriveIn.filterMap_nil {α : Type} {f : Element → Option α} (h : ArriveIn namespaces ns qs es)
    (hf : ∀ q ∈ qs, ∀ e, Arrives namespaces ns q e → f e = none) : es.filterMap f = [] := by
  induction qs generalizing es with
  | nil =>
    rw [arriveIn_nil] at h
    rw [h, List.filterMap_nil]
  | cons q qs ih =>
    obtain ⟨e, es', rfl, he, hes⟩ := arriveIn_cons.mp h
    rw [List.filterMap_cons_none (hf q List.mem_cons_self e he)]
    exact ih hes (fun q hq => hf q (List.mem_cons_of_mem _ hq))

end XmlElement

end ChatDesktop.Library
