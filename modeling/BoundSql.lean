import BoundSql.Action
import BoundSql.Association
import BoundSql.ChangeSet
import BoundSql.Command.Basic
import BoundSql.Command.Sql
import BoundSql.Condition.Basic
import BoundSql.Condition.Describe
import BoundSql.Condition.Sql
import BoundSql.Config.BatchSize
import BoundSql.Config.Setting
import BoundSql.Criteria.Basic
import BoundSql.Criteria.Describe
import BoundSql.Decimal.Binary64
import BoundSql.Decimal.Literal
import BoundSql.Decimal.Shortest
import BoundSql.Draft
import BoundSql.Error
import BoundSql.Identifier
import BoundSql.Json.Ascii
import BoundSql.Json.Basic
import BoundSql.Json.Reader
import BoundSql.KeyAssignment
import BoundSql.Path
import BoundSql.Proofs.ChangeSet.Runs
import BoundSql.Proofs.ChangeSet.SetClause
import BoundSql.Proofs.Clause.EmptyGroups
import BoundSql.Proofs.Clause.Exactness
import BoundSql.Proofs.Clause.Grammar
import BoundSql.Proofs.Clause.Meaning
import BoundSql.Proofs.Clause.Precedence
import BoundSql.Proofs.Clause.ReadBack
import BoundSql.Proofs.Clause.Reader
import BoundSql.Proofs.Clause.ThreeValued
import BoundSql.Proofs.Command.BatchUpdate
import BoundSql.Proofs.Command.Binding
import BoundSql.Proofs.Command.InsertTree
import BoundSql.Proofs.Command.Inserts
import BoundSql.Proofs.Command.KeyTargets
import BoundSql.Proofs.Command.LiveRows
import BoundSql.Proofs.Command.Noninterference
import BoundSql.Proofs.Command.RowList
import BoundSql.Proofs.Command.SelectiveBatch
import BoundSql.Proofs.Command.UpdateTree
import BoundSql.Proofs.Command.Updates
import BoundSql.Proofs.Condition.Addressing
import BoundSql.Proofs.Condition.Offenders
import BoundSql.Proofs.Condition.Tree
import BoundSql.Proofs.Config.BatchSizes
import BoundSql.Proofs.Config.Lookup
import BoundSql.Proofs.Config.NodeIds
import BoundSql.Proofs.Criteria.Identifiers
import BoundSql.Proofs.Criteria.Runs
import BoundSql.Proofs.Criteria.Synthesis
import BoundSql.Proofs.Draft
import BoundSql.Proofs.Journal
import BoundSql.Proofs.Path.NamedHost
import BoundSql.Proofs.Path.Reader
import BoundSql.Proofs.Session.BatchTrace
import BoundSql.Proofs.Session.Filling
import BoundSql.Proofs.Session.InsertPhases
import BoundSql.Proofs.Session.KeyOutcomes
import BoundSql.Proofs.Session.Keying
import BoundSql.Proofs.Session.Refilling
import BoundSql.Proofs.Session.SharedKeys
import BoundSql.Proofs.Session.SplitInsert
import BoundSql.Proofs.Snowflake.Bijection
import BoundSql.Proofs.Snowflake.Course
import BoundSql.Proofs.Snowflake.Failures
import BoundSql.Proofs.Snowflake.Layout
import BoundSql.Proofs.Snowflake.Ordering
import BoundSql.Proofs.Snowflake.Places
import BoundSql.Proofs.Snowflake.Refusals
import BoundSql.Proofs.Text.Encoding
import BoundSql.Proofs.Text.Numeral
import BoundSql.Proofs.Turns
import BoundSql.Proofs.Writing.Alphabet
import BoundSql.Proofs.Writing.DialectIndependence
import BoundSql.Proofs.Writing.Relocation
import BoundSql.Registry
import BoundSql.Rehearsal.Counter
import BoundSql.Rehearsal.FillScript
import BoundSql.Rehearsal.Host
import BoundSql.Rehearsal.Keys
import BoundSql.Rehearsal.Observer
import BoundSql.Rehearsal.Record
import BoundSql.Rehearsal.Recorder
import BoundSql.Rehearsal.ScriptedClock
import BoundSql.Schema.Basic
import BoundSql.Schema.Field
import BoundSql.Schema.Row
import BoundSql.Session.Batch
import BoundSql.Session.Dispatcher
import BoundSql.Session.Fill
import BoundSql.Session.Operation
import BoundSql.Snowflake.Generator
import BoundSql.Snowflake.Layout
import BoundSql.Snowflake.NodeId
import BoundSql.Text.Blank
import BoundSql.Text.Hidden
import BoundSql.Text.Integer
import BoundSql.Text.Utf8
import BoundSql.Text.Uuid
import BoundSql.Text.Visible
import BoundSql.Value
import BoundSql.Writing
