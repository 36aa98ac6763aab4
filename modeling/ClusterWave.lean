import ClusterWave.Geometry.Sector
import ClusterWave.Number.Text
import ClusterWave.Time.Timestamp
import ClusterWave.Table
import ClusterWave.Density.Map
import ClusterWave.Json.Fields
import ClusterWave.Json.Reader
import ClusterWave.Node.Settings
import ClusterWave.Peer.Registry
import ClusterWave.Wavefront.Plan
import ClusterWave.Wavefront.Schedule
import ClusterWave.Wire.Batch
import ClusterWave.Node.Bench
import ClusterWave.Simulation.Scenario
import ClusterWave.Form.Account
import ClusterWave.Form.Message
import ClusterWave.Main
import ClusterWave.Proofs.Node.Move
import ClusterWave.Proofs.Time
import ClusterWave.Proofs.Node.Handle
import ClusterWave.Proofs.Bench.Alarm
import ClusterWave.Proofs.Bench.Attend
import ClusterWave.Proofs.Network.Acknowledgment
import ClusterWave.Proofs.Network.Causality
import ClusterWave.Proofs.Wire.Exact
import ClusterWave.Proofs.Simulation.Summary
import ClusterWave.Proofs.Simulation.Role
import ClusterWave.Proofs.Node.Stride
import ClusterWave.Proofs.Bench.Keep
import ClusterWave.Proofs.Clustering.Alert
import ClusterWave.Proofs.Clustering.Election
import ClusterWave.Proofs.Wavefront.Ready
import ClusterWave.Proofs.Wavefront.Exchange
import ClusterWave.Proofs.Network.Reply
import ClusterWave.Proofs.Simulation.Finish
import ClusterWave.Proofs.Wavefront.Ahead
import ClusterWave.Proofs.Bench.Match
import ClusterWave.Proofs.Bench.Course
import ClusterWave.Proofs.Peer.Registry
import ClusterWave.Proofs.Clustering.Neighborhood
import ClusterWave.Proofs.Simulation.Seat
import ClusterWave.Proofs.Peer.Upkeep
import ClusterWave.Proofs.Clustering.Loyal
import ClusterWave.Proofs.Clustering.Follow
import ClusterWave.Proofs.Bench.Expect
import ClusterWave.Proofs.Clustering.Reign
import ClusterWave.Proofs.Simulation.Cast
import ClusterWave.Proofs.Simulation.Gather
import ClusterWave.Proofs.Simulation.Calm
import ClusterWave.Proofs.Simulation.SoleHead
import ClusterWave.Proofs.Clustering.Revision
import ClusterWave.Proofs.Clustering.Departure
import ClusterWave.Proofs.Clustering.Freshness
import ClusterWave.Proofs.Clustering.Finality
import ClusterWave.Proofs.Clustering.Misfile
import ClusterWave.Proofs.Network.Misfile
import ClusterWave.Proofs.Simulation.Split
import ClusterWave.Proofs.Simulation.Replay
import ClusterWave.Proofs.Network.Agreement
import ClusterWave.Proofs.Simulation.Conservation
import ClusterWave.Proofs.Simulation.Seed
import ClusterWave.Proofs.Simulation.Channel
import ClusterWave.Proofs.Simulation.Leaver
import ClusterWave.Proofs.Node.Post
import ClusterWave.Proofs.Node.Trace
import ClusterWave.Proofs.Network.Incident
import ClusterWave.Proofs.Simulation.Calendar
import ClusterWave.Proofs.Peer.Round
import ClusterWave.Proofs.Peer.Hearsay
import ClusterWave.Proofs.Bench.Desk
import ClusterWave.Proofs.Wire.Greedy
import ClusterWave.Proofs.Wavefront.Repeat
import ClusterWave.Proofs.Wavefront.Launch
import ClusterWave.Proofs.Clustering.Formation
import ClusterWave.Proofs.Wavefront.Stranded
import ClusterWave.Proofs.Wavefront.Offers
import ClusterWave.Proofs.Density.Estimate
import ClusterWave.Proofs.Node.Delivery
import ClusterWave.Proofs.Node.Shapes
import ClusterWave.Proofs.Wavefront.Nearest
import ClusterWave.Proofs.Wavefront.Planning
import ClusterWave.Proofs.Wavefront.DutyCycle
