import Introspection.Cache.Memo
import Introspection.Main
import Introspection.Proofs.Model.Merge
import Introspection.Proofs.Model.Renaming
import Introspection.Proofs.Model.Order
import Introspection.Proofs.Model.Blacklist
import Introspection.Proofs.Entity.Decoding
import Introspection.Proofs.Cache.Separation
import Introspection.Proofs.Model.Records
import Introspection.Proofs.Service.Posted
import Introspection.Proofs.Service.Lineage
import Introspection.Proofs.Service.Tag
import Introspection.Proofs.Service.Surfaces
import Introspection.Proofs.Stub.Descent
import Introspection.Proofs.Cache.Timed
import Introspection.Proofs.Entity.Parts
import Introspection.Proofs.Model.WellFormed
import Introspection.Proofs.Stub.Stack
import Introspection.Proofs.Text.Break
import Introspection.Proofs.Xml.Names
import Introspection.Proofs.Stub.Lines
import Introspection.Proofs.Stub.Signature
import Introspection.Proofs.Entity.Arrays
import Introspection.Proofs.Model.Nameless
import Introspection.Proofs.Registry.Growth
import Introspection.Proofs.Config.Written
import Introspection.Proofs.Model.Atomic
import Introspection.Proofs.Cache.Lifetime
import Introspection.Proofs.Registry.FirstWins
import Introspection.Proofs.Stub.Constant
import Introspection.Proofs.Query
import Introspection.Proofs.Outline
import Introspection.Proofs.LongestFirst
